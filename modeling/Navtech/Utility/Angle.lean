/-
  `Angle` of `cpp_17/utility/angle.h`, on the patterns of its `float`.

  `normalise` compares and computes with `double` constants: a sum is formed in `double`, whose
  53 bits round it once, and stored in the `float`, which rounds it again. It is written for
  any type with the operations it uses. The loop is given a number of turns; a value that is
  still too large after them all has no result, whatever their number in the case of an
  infinity. An angle in the range that the class is meant for is left alone
  (`normalise_of_inRange`); its last line turns negative zero into positive zero, so no `Angle`
  holds the former.
-/
import Navtech.Lib.BinaryFloat
import Navtech.Utility.NetConversion

namespace Navtech.Utility

open BinaryFloat

/-- The operations of `normalise` on a value and a whole number of degrees. -/
class Degrees (α : Type) where
  /-- `value >= degrees`. -/
  atLeast : α → Int → Bool
  /-- `value <= degrees`. -/
  atMost : α → Int → Bool
  /-- `value < degrees`. -/
  below : α → Int → Bool
  /-- `value + degrees`. -/
  plus : α → Int → α
  /-- `result + value`, where `result` is zero. -/
  zeroPlus : α → α

namespace Degrees

variable {α : Type} [Degrees α]

/-- `while (value >= 360.0) value = (value - 360.0);` -/
def wrap : Nat → α → Option α
  | 0, value => if atLeast value 360 then none else some value
  | turns + 1, value =>
    if atLeast value 360 then wrap turns (plus value (-360)) else some value

/-- The two lines after the loop. -/
def raise (value : α) : α :=
  let value := if atMost value (-360) then plus value 360 else value
  if below value 0 then plus value 360 else value

/-- `Angle::normalise`, with `turns` turns of the loop. -/
def normalise (turns : Nat) (value : α) : Option α :=
  (wrap turns value).map fun value => zeroPlus (raise value)

end Degrees

/-! ## Single precision -/

/-- The format of `float`. -/
def binary32 : Format := ⟨23, 8, by decide, by decide⟩

namespace Binary32

def value (x : Binary32) : Value := BinaryFloat.value binary32 x.bits.toNat

/-- A number of degrees, in the unit of the format. -/
def units (degrees : Int) : Int := degrees * binary32.one

instance : Degrees Binary32 where
  atLeast x degrees := x.value.ge (units degrees)
  atMost x degrees := x.value.le (units degrees)
  below x degrees := x.value.lt (units degrees)
  plus x degrees := ⟨UInt32.ofNat (addConst binary32 53 x.bits.toNat (units degrees))⟩
  zeroPlus x := ⟨UInt32.ofNat (add binary32 0 x.bits.toNat)⟩

def negativeZero : Binary32 := ⟨0x80000000⟩

theorem bits_lt (x : Binary32) : x.bits.toNat < 2 * binary32.signBit := x.bits.toNat_lt

theorem toNat_negativeZero : negativeZero.bits.toNat = binary32.signBit := by decide

theorem zeroPlus_ne_negativeZero (x : Binary32) : Degrees.zeroPlus x ≠ negativeZero := by
  intro h
  have hlt : add binary32 0 x.bits.toNat < 2 ^ 32 := add_lt (by decide) x.bits_lt
  have hbits := congrArg (fun y : Binary32 => y.bits.toNat) h
  change (UInt32.ofNat (add binary32 0 x.bits.toNat)).toNat = negativeZero.bits.toNat at hbits
  rw [UInt32.toNat_ofNat_of_lt' hlt, toNat_negativeZero] at hbits
  exact add_zero_ne_signBit _ hbits

theorem zeroPlus_finite {x : Binary32} {n : Int} (hx : x ≠ negativeZero)
    (h : x.value = .finite n) : Degrees.zeroPlus x = x := by
  have hne : x.bits.toNat ≠ binary32.signBit := by
    intro hbits
    rw [← toNat_negativeZero] at hbits
    exact hx (congrArg mk (UInt32.toNat_inj.mp hbits))
  have hadd := add_zero_left x.bits_lt hne h
  show mk (UInt32.ofNat (add binary32 0 x.bits.toNat)) = x
  rw [hadd, UInt32.ofNat_toNat]

/-- A number in `[0, 360)`. -/
def InRange (x : Binary32) : Prop :=
  ∃ n, x.value = .finite n ∧ 0 ≤ n ∧ n < units 360

/-- Nothing is done to a number in the range. -/
theorem normalise_of_inRange {x : Binary32} (hx : x ≠ negativeZero) (h : x.InRange)
    (turns : Nat) : Degrees.normalise turns x = some x := by
  obtain ⟨n, hvalue, hlow, hhigh⟩ := h
  have hatLeast : Degrees.atLeast x 360 = false := by
    show x.value.ge _ = false
    rw [hvalue]
    exact decide_eq_false (not_le.mpr hhigh)
  have hatMost : Degrees.atMost x (-360) = false := by
    show x.value.le _ = false
    rw [hvalue]
    exact decide_eq_false (not_le.mpr (lt_of_lt_of_le (by decide) hlow))
  have hbelow : Degrees.below x 0 = false := by
    show x.value.lt _ = false
    rw [hvalue]
    exact decide_eq_false (not_lt.mpr hlow)
  have hwrap : Degrees.wrap turns x = some x := by
    cases turns <;> exact if_neg (by rw [hatLeast]; exact Bool.false_ne_true)
  have hraise : Degrees.raise x = x := by
    unfold Degrees.raise
    simp [hatMost, hbelow]
  unfold Degrees.normalise
  rw [hwrap, Option.map_some, hraise, zeroPlus_finite hx hvalue]

end Binary32

/-! ## Angles -/

/-- An `Angle`. Its value is zero, or comes out of `normalise`. -/
@[ext]
structure Angle where
  value : Binary32
  ne_negativeZero : value ≠ Binary32.negativeZero
deriving DecidableEq

namespace Angle

/-- `Angle(float init)`. -/
def ofFloat (turns : Nat) (init : Binary32) : Option Angle :=
  (Degrees.wrap turns init).map fun value =>
    ⟨Degrees.zeroPlus (Degrees.raise value), Binary32.zeroPlus_ne_negativeZero _⟩

def toFloat (a : Angle) : Binary32 := a.value

theorem ofFloat_value (turns : Nat) (init : Binary32) :
    (ofFloat turns init).map value = Degrees.normalise turns init := by
  unfold ofFloat Degrees.normalise
  rw [Option.map_map]
  rfl

theorem ofFloat_toFloat {a : Angle} (h : a.toFloat.InRange) (turns : Nat) :
    ofFloat turns a.toFloat = some a := by
  have hnorm : Degrees.normalise turns a.toFloat = some a.toFloat :=
    Binary32.normalise_of_inRange a.ne_negativeZero h turns
  rw [← ofFloat_value] at hnorm
  obtain ⟨b, hb, hab⟩ := Option.map_eq_some_iff.mp hnorm
  rw [hb]
  exact congrArg some (Angle.ext hab)

end Angle

/-- 370 degrees wrap to 10, and 720 to zero; an infinity does not wrap. -/
example : Degrees.normalise 2 (⟨0x43B90000⟩ : Binary32) = some ⟨0x41200000⟩ ∧
    Degrees.normalise 2 (⟨0x44340000⟩ : Binary32) = some ⟨0⟩ ∧
    Degrees.normalise 2 (⟨0x7F800000⟩ : Binary32) = none := by decide

end Navtech.Utility
