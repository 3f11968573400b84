/-
  The loop of `Angle::normalise`, on every pattern of a `float`.

  Up to 2^33 two neighbouring numbers are no more than 512 apart, so 360 less is another number,
  and the loop gets on (`plus_lt`). Above, they are 1024 apart or more, and what is 360 less
  rounds back to where it was, in `double` first and then in `float` (`plus_eq`). So the loop
  ends exactly on not-a-number and on what is not above 2^33 (`wrap_ends_iff`); the infinity is
  above.
-/
import Navtech.Lib.BinaryRounding
import Navtech.Utility.Angle

namespace Navtech.Utility

open BinaryFloat

namespace Binary32

/-- Not a number, or a number that is not above 2^33. -/
def Wraps (x : Binary32) : Prop := x.value = .nan ∨ x.value.le (units (2 ^ 33)) = true

instance (x : Binary32) : Decidable x.Wraps := inferInstanceAs (Decidable (_ ∨ _))

theorem one_eq : binary32.one = 2 ^ 149 := rfl

variable {x : Binary32}

/-! ## One turn -/

theorem value_plus {n : Int} (h : x.value = .finite n) (degrees : Int) :
    (Degrees.plus x degrees).value =
      BinaryFloat.value binary32 (encode binary32 (roundTo 53 (n + units degrees))) := by
  have hsum : addConst binary32 53 x.bits.toNat (units degrees) =
      encode binary32 (roundTo 53 (n + units degrees)) := by
    unfold addConst
    rw [show BinaryFloat.value binary32 x.bits.toNat = .finite n from h]
  change BinaryFloat.value binary32 (UInt32.ofNat (addConst binary32 53 x.bits.toNat
    (units degrees))).toNat = _
  rw [hsum, UInt32.toNat_ofNat_of_lt' (encode_lt _)]

/-- A number above zero is a magnitude. -/
theorem magnitude_of_pos {n : Nat} (hn : 0 < n) (h : x.value = .finite n) :
    ∃ low, low < binary32.infinity ∧ magnitude binary32 low = n := by
  obtain ⟨hlow, hvalue⟩ := value_finite h
  refine ⟨_, hlow, ?_⟩
  split at hvalue <;> omega

/-- The numbers of a `float` have 24 bits. -/
theorem roundNat_finite {n p : Nat} (h : x.value = .finite n) (hp : 24 ≤ p) : roundNat p n = n := by
  by_cases hn : n = 0
  · rw [hn, roundNat_zero]
  obtain ⟨low, -, hmagnitude⟩ := magnitude_of_pos (Nat.pos_of_ne_zero hn) h
  obtain ⟨s, j, hs, hsj⟩ := magnitude_eq_mul binary32 low
  rw [← hmagnitude, hsj]
  exact roundNat_of_multiple (hs.le.trans (Nat.pow_le_pow_right (by decide) hp)) (by omega)

/-- A subtraction that stays above zero. -/
theorem value_minus {n : Nat} (h : x.value = .finite n) (hle : 360 * 2 ^ 149 ≤ n) :
    (Degrees.plus x (-360)).value =
      .finite (roundNat 24 (roundNat 53 (n - 360 * 2 ^ 149)) : Nat) := by
  obtain ⟨low, hlow, hmagnitude⟩ := magnitude_of_pos (by omega) h
  have hdiff : (n : Int) + units (-360) = ((n - 360 * 2 ^ 149 : Nat) : Int) := by
    unfold units
    rw [one_eq]
    omega
  have hbelow : roundNat 53 (n - 360 * 2 ^ 149) ≤ magnitude binary32 low := by
    rw [hmagnitude]
    refine (roundNat_mono (by decide) (Nat.sub_le _ _)).trans ?_
    rw [roundNat_finite h (by decide)]
  have hfinite : encodeMagnitude binary32
      ((roundNat 53 (n - 360 * 2 ^ 149) : Nat) : Int).natAbs < binary32.infinity := by
    rw [Int.natAbs_natCast]
    exact encodeMagnitude_lt hlow hbelow
  rw [value_plus h, hdiff, roundTo_natCast, value_encode hfinite, roundTo_natCast]
  rfl

/-- Up to 2^33 a turn gets on. -/
theorem plus_lt {n : Nat} (h : x.value = .finite n) (hle : 360 * 2 ^ 149 ≤ n)
    (hbound : n ≤ 2 ^ 33 * 2 ^ 149) :
    ∃ m : Nat, (Degrees.plus x (-360)).value = .finite m ∧ m < n := by
  refine ⟨_, value_minus h hle, ?_⟩
  have hdouble : roundNat 53 (n - 360 * 2 ^ 149) ≤ n - 360 * 2 ^ 149 + 2 ^ 128 :=
    roundNat_le_add (by omega)
  have hsingle : roundNat 24 (roundNat 53 (n - 360 * 2 ^ 149)) ≤
      roundNat 53 (n - 360 * 2 ^ 149) + 2 ^ 157 := roundNat_le_add (by omega)
  omega

/-- Above 2^33 a turn changes nothing. -/
theorem plus_eq {n : Nat} (h : x.value = .finite n) (hbound : 2 ^ 33 * 2 ^ 149 < n) :
    (Degrees.plus x (-360)).value = .finite n := by
  obtain ⟨s, j, hs, hs', rfl⟩ := exists_leading (p := 24) (by decide) (by omega)
    (roundNat_finite h le_rfl)
  have hj : 158 < j := by
    refine (Nat.pow_lt_pow_iff_right (a := 2) (by decide)).mp ?_
    have hle : s * 2 ^ j ≤ 2 ^ 24 * 2 ^ j := Nat.mul_le_mul_right _ hs'
    omega
  obtain ⟨i, rfl⟩ := Nat.exists_eq_add_of_le' (show 3 ≤ j by omega)
  have hi : 2 ^ 156 ≤ 2 ^ i := Nat.pow_le_pow_right (by decide) (by omega)
  have hscale : s * 2 ^ (i + 3) = 8 * s * 2 ^ i := by
    rw [pow_add]
    ring
  -- three eighths of the distance to the next number are more than 360
  have hstep : (8 * s - 3) * 2 ^ i ≤ s * 2 ^ (i + 3) - 360 * 2 ^ 149 := by
    rw [hscale, Nat.sub_mul]
    omega
  have hdouble : (8 * s - 3) * 2 ^ i ≤ roundNat 53 (s * 2 ^ (i + 3) - 360 * 2 ^ 149) := by
    have hkept : roundNat 53 ((8 * s - 3) * 2 ^ i) = (8 * s - 3) * 2 ^ i :=
      roundNat_of_multiple (by omega) (by decide)
    rw [← hkept]
    exact roundNat_mono (by decide) hstep
  have hle : roundNat 53 (s * 2 ^ (i + 3) - 360 * 2 ^ 149) ≤ s * 2 ^ (i + 3) := by
    refine (roundNat_mono (by decide) (Nat.sub_le _ _)).trans ?_
    rw [roundNat_finite h (by decide)]
  rw [value_minus h (by omega), roundNat_absorb (by decide) hs hs' ?_ hle]
  have hpow : 2 ^ (i + 3) = 8 * 2 ^ i := by
    rw [pow_add]
    omega
  have hless : (8 * s - 3) * 2 ^ i + 3 * 2 ^ i = 8 * s * 2 ^ i := by
    rw [← Nat.add_mul, Nat.sub_add_cancel (by omega)]
  omega

/-! ## The loop -/

theorem wrap_none {n : Nat} (h : x.value = .finite n) (hbound : 2 ^ 33 * 2 ^ 149 < n)
    (turns : Nat) : Degrees.wrap turns x = none := by
  have hatLeast (y : Binary32) (hy : y.value = .finite n) : Degrees.atLeast y 360 = true := by
    change y.value.ge (units 360) = true
    rw [hy]
    unfold units
    rw [one_eq]
    refine decide_eq_true ?_
    omega
  induction turns generalizing x with
  | zero => exact if_pos (hatLeast x h)
  | succ turns ih =>
    unfold Degrees.wrap
    rw [if_pos (hatLeast x h)]
    exact ih (plus_eq h hbound)

/-- The infinity stays where it is. -/
theorem wrap_none_of_infinite (h : x.value = .infinite false) (turns : Nat) :
    Degrees.wrap turns x = none := by
  have hatLeast : Degrees.atLeast x 360 = true := by
    change x.value.ge (units 360) = true
    rw [h]
    rfl
  have hplus : Degrees.plus x (-360) = x := by
    have hsum : addConst binary32 53 x.bits.toNat (units (-360)) = x.bits.toNat := by
      unfold addConst
      rw [show BinaryFloat.value binary32 x.bits.toNat = .infinite false from h]
    change Binary32.mk (UInt32.ofNat (addConst binary32 53 x.bits.toNat (units (-360)))) = x
    rw [hsum, UInt32.ofNat_toNat]
  induction turns with
  | zero => exact if_pos hatLeast
  | succ turns ih =>
    unfold Degrees.wrap
    rw [if_pos hatLeast, hplus]
    exact ih

theorem wrap_of_not_atLeast (h : Degrees.atLeast x 360 = false) (turns : Nat) :
    Degrees.wrap turns x = some x := by
  cases turns <;> exact if_neg (by rw [h]; exact Bool.false_ne_true)

theorem wrap_ends {n : Nat} (h : x.value = .finite n) (hbound : n ≤ 2 ^ 33 * 2 ^ 149) :
    ∃ turns, Degrees.wrap turns x ≠ none := by
  induction n using Nat.strong_induction_on generalizing x with
  | _ n ih =>
    by_cases hle : 360 * 2 ^ 149 ≤ n
    · obtain ⟨m, hm, hlt⟩ := plus_lt h hle hbound
      obtain ⟨turns, hturns⟩ := ih m hlt hm (by omega)
      refine ⟨turns + 1, ?_⟩
      unfold Degrees.wrap
      split
      · exact hturns
      · exact Option.some_ne_none x
    · have hbelow : Degrees.atLeast x 360 = false := by
        change x.value.ge (units 360) = false
        rw [h]
        unfold units
        rw [one_eq]
        refine decide_eq_false ?_
        omega
      exact ⟨0, by rw [wrap_of_not_atLeast hbelow]; exact Option.some_ne_none x⟩

/-- More turns do not change the result. -/
theorem wrap_mono {turns more : Nat} {y : Binary32} (h : Degrees.wrap turns x = some y)
    (hle : turns ≤ more) : Degrees.wrap more x = some y := by
  induction turns generalizing x more with
  | zero =>
    unfold Degrees.wrap at h
    split at h
    · exact absurd h.symm (Option.some_ne_none y)
    · rename_i hbelow
      rw [wrap_of_not_atLeast (Bool.eq_false_iff.mpr hbelow)]
      exact h
  | succ turns ih =>
    obtain ⟨more, rfl⟩ := Nat.exists_eq_add_of_le' (show 1 ≤ more by omega)
    unfold Degrees.wrap at h ⊢
    split
    · rename_i habove
      rw [if_pos habove] at h
      exact ih h (Nat.le_of_succ_le_succ hle)
    · rename_i hbelow
      rwa [if_neg hbelow] at h

/-- **The loop ends** exactly on what is not a number or not above 2^33. -/
theorem wrap_ends_iff (x : Binary32) : (∃ turns, Degrees.wrap turns x ≠ none) ↔ x.Wraps := by
  have hend (hbelow : Degrees.atLeast x 360 = false) : ∃ turns, Degrees.wrap turns x ≠ none :=
    ⟨0, by rw [wrap_of_not_atLeast hbelow]; exact Option.some_ne_none x⟩
  unfold Wraps
  cases hx : x.value with
  | nan => exact iff_of_true (hend (by change x.value.ge _ = false; rw [hx]; rfl)) (.inl rfl)
  | infinite negative =>
    cases negative with
    | true => exact iff_of_true (hend (by change x.value.ge _ = false; rw [hx]; rfl)) (.inr rfl)
    | false =>
      refine iff_of_false (fun ⟨turns, hturns⟩ => hturns (wrap_none_of_infinite hx turns)) ?_
      rintro (hnan | hle)
      · cases hnan
      · exact Bool.false_ne_true hle
  | finite n =>
    have hbound : Value.le (.finite n) (units (2 ^ 33)) = true ↔ n ≤ 2 ^ 33 * 2 ^ 149 := by
      unfold units
      rw [one_eq]
      exact decide_eq_true_iff
    rw [hbound]
    rcases lt_or_ge n 0 with hneg | hnonneg
    · refine iff_of_true (hend ?_) (.inr (by omega))
      change x.value.ge _ = false
      rw [hx]
      unfold units
      rw [one_eq]
      refine decide_eq_false ?_
      omega
    · obtain ⟨n, rfl⟩ := Int.eq_ofNat_of_zero_le hnonneg
      rw [or_iff_right (fun h => by cases h)]
      constructor
      · rintro ⟨turns, hturns⟩
        by_contra hlt
        exact hturns (wrap_none hx (by omega) turns)
      · intro hle
        exact wrap_ends hx (by omega)

end Binary32

end Navtech.Utility
