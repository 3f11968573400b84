/-
  `Angle` of `cpp_17/utility/angle.h`, on exact numbers, and programs of angles.

  The loop takes off all turns that are too many, but two turns are the most that is added. So
  an angle is in `[0, 360)`, a whole number of turns from the value it is made of, exactly if the
  value is no more than two turns below zero (`normalise_exact`). Sums and differences of such
  angles are less than one turn below zero; in a program angles can leave the range only where
  they are made of other values (`canonical_iff`).
-/
import Mathlib.Algebra.Order.ToIntervalMod
import Mathlib.Data.Rat.Floor
import Navtech.Utility.Angle

namespace Navtech.Utility

instance : Degrees ℚ where
  atLeast x degrees := decide ((degrees : ℚ) ≤ x)
  atMost x degrees := decide (x ≤ degrees)
  below x degrees := decide (x < degrees)
  plus x degrees := x + degrees
  zeroPlus x := 0 + x

namespace ExactAngle

/-- `Angle { v }` holds `r`; it takes some number of turns, and no more. -/
def Holds (v r : ℚ) : Prop := ∃ n, ∀ turns, n ≤ turns → Degrees.normalise turns v = some r

/-! ## Programs -/

/-- A statement of a program that keeps its angles in numbered variables. -/
inductive Statement where
  /-- `Angle { value }`, into variable `k`. -/
  | make (k : Nat) (value : ℚ)
  /-- `operator+` on variables `i` and `j`, into variable `k`. -/
  | plus (k i j : Nat)
  | minus (k i j : Nat)
  | plusAssign (i j : Nat)
  | minusAssign (i j : Nat)
deriving DecidableEq

/-- The members `value` of the variables. -/
abbrev Variables := Nat → ℚ

/-- Every angle is zero before it is given a value. -/
def start : Variables := fun _ => 0

def Statement.exec (turns : Nat) (vars : Variables) : Statement → Option Variables
  | make k value => (Degrees.normalise turns value).map (Function.update vars k)
  | plus k i j => (Degrees.normalise turns (vars i + vars j)).map (Function.update vars k)
  | minus k i j => (Degrees.normalise turns (vars i - vars j)).map (Function.update vars k)
  | plusAssign i j => (Degrees.normalise turns (vars i + vars j)).map (Function.update vars i)
  | minusAssign i j => (Degrees.normalise turns (vars i - vars j)).map (Function.update vars i)

/-- A run from `vars` ends in `vars'`, once there are turns enough. -/
def Ends (program : List Statement) (vars vars' : Variables) : Prop :=
  ∃ n, ∀ turns, n ≤ turns → program.foldlM (Statement.exec turns) vars = some vars'

/-! ## Canonical angles -/

/-- In the range, and a whole number of turns away. -/
def Canonical (v r : ℚ) : Prop := r ∈ Set.Ico 0 360 ∧ v ≡ r [PMOD 360]

/-- The angle made of a value is the one canonical angle. -/
def MadeCanonical (v : ℚ) : Prop := ∃ r, Holds v r ∧ Canonical v r ∧ ∀ r', Canonical v r' → r' = r

/-- After each of its statements a program has all angles in the range, and what is added to one
    can be taken away again. -/
def StaysCanonical (program : List Statement) : Prop :=
  ∀ pre, pre <+: program → ∃ vars, Ends pre start vars ∧ (∀ i, vars i ∈ Set.Ico 0 360) ∧
    ∀ i j, ∃ sum, Holds (vars i + vars j) sum ∧ Holds (sum - vars j) (vars i)

theorem canonical_unique {v r r' : ℚ} (h : Canonical v r) (h' : Canonical v r') : r' = r := by
  have hturn : (0 : ℚ) < 360 := by norm_num
  have hself {r : ℚ} (hr : r ∈ Set.Ico 0 360) : toIcoMod hturn 0 r = r := by
    rwa [toIcoMod_eq_self, zero_add]
  rw [← hself h.1, ← hself h'.1]
  exact (toIcoMod_inj hturn).mpr (h'.2.symm.trans h.2)

/-! ## One value -/

section Normalise

variable {v r : ℚ}

theorem wrap_of_lt (h : v < 360) (turns : Nat) : Degrees.wrap turns v = some v := by
  have hatLeast : Degrees.atLeast v 360 = false := decide_eq_false (not_le.mpr h)
  cases turns <;> exact if_neg (by rw [hatLeast]; exact Bool.false_ne_true)

/-- No turn is taken off what is below one. -/
theorem wrap_below (h : v < 360) : ∃ m : Nat, v - 360 * m < 360 ∧ (m = 0 ∨ 0 ≤ v - 360 * m) ∧
    ∀ turns, Degrees.wrap turns v = some (v - 360 * m) := by
  refine ⟨0, ?_, .inl rfl, fun turns => ?_⟩
  · rwa [Nat.cast_zero, mul_zero, sub_zero]
  · rw [Nat.cast_zero, mul_zero, sub_zero, wrap_of_lt h]

/-- The loop takes turns off what is not below one turn, and goes no further than zero. -/
theorem wrap_exact {k : Nat} (h : v < 360 * (k + 1)) :
    ∃ m : Nat, v - 360 * m < 360 ∧ (m = 0 ∨ 0 ≤ v - 360 * m) ∧
      ∀ turns, k ≤ turns → Degrees.wrap turns v = some (v - 360 * m) := by
  induction k generalizing v with
  | zero =>
    rw [Nat.cast_zero, zero_add, mul_one] at h
    obtain ⟨m, hbelow, hzero, hwrap⟩ := wrap_below h
    exact ⟨m, hbelow, hzero, fun turns _ => hwrap turns⟩
  | succ k ih =>
    rcases lt_or_ge v 360 with hlt | hge
    · obtain ⟨m, hbelow, hzero, hwrap⟩ := wrap_below hlt
      exact ⟨m, hbelow, hzero, fun turns _ => hwrap turns⟩
    · push_cast at h
      obtain ⟨m, hbelow, hzero, hwrap⟩ := ih (v := v - 360) (by linarith)
      have hsucc : v - 360 * (m + 1 : Nat) = v - 360 - 360 * m := by
        push_cast
        ring
      refine ⟨m + 1, ?_, .inr ?_, fun turns hturns => ?_⟩
      · rwa [hsucc]
      · rw [hsucc]
        rcases hzero with rfl | hzero
        · rw [Nat.cast_zero, mul_zero, sub_zero]
          exact sub_nonneg.mpr hge
        · exact hzero
      · obtain ⟨turns, rfl⟩ := Nat.exists_eq_succ_of_ne_zero (show turns ≠ 0 by omega)
        have hatLeast : Degrees.atLeast v 360 = true := decide_eq_true hge
        have hminus : Degrees.plus v (-360) = v - 360 := by
          change v + ((-360 : Int) : ℚ) = v - 360
          push_cast
          ring
        rw [hsucc, ← hwrap turns (by omega), ← hminus]
        exact if_pos hatLeast

theorem raise_eq (v : ℚ) : Degrees.raise v =
    if v ≤ -360 then if v + 360 < 0 then v + 360 + 360 else v + 360
    else if v < 0 then v + 360 else v := by
  unfold Degrees.raise
  change (if decide ((if decide (v ≤ ((-360 : Int) : ℚ)) = true then v + ((360 : Int) : ℚ) else v) <
    ((0 : Int) : ℚ)) = true then
      (if decide (v ≤ ((-360 : Int) : ℚ)) = true then v + ((360 : Int) : ℚ) else v) +
        ((360 : Int) : ℚ)
    else if decide (v ≤ ((-360 : Int) : ℚ)) = true then v + ((360 : Int) : ℚ) else v) = _
  push_cast
  simp only [decide_eq_true_eq]
  split <;> rfl

/-- Two turns are the most that is added. -/
theorem raise_exact (h : v < 360) :
    (∃ m : Nat, Degrees.raise v = v + 360 * m) ∧
      (Degrees.raise v ∈ Set.Ico 0 360 ↔ -720 ≤ v) := by
  rw [raise_eq, Set.mem_Ico]
  split
  · split
    · exact ⟨⟨2, by ring⟩, fun h => by linarith only [h.1],
        fun h => ⟨by linarith only [h], by linarith⟩⟩
    · exact ⟨⟨1, by ring⟩, iff_of_true ⟨by linarith, by linarith⟩ (by linarith)⟩
  · split
    · exact ⟨⟨1, by ring⟩, iff_of_true ⟨by linarith, by linarith⟩ (by linarith)⟩
    · exact ⟨⟨0, by ring⟩, iff_of_true ⟨by linarith, h⟩ (by linarith)⟩

/-- What the class makes of a value. -/
theorem normalise_exact (v : ℚ) :
    ∃ r, Holds v r ∧ v ≡ r [PMOD 360] ∧ (r ∈ Set.Ico 0 360 ↔ -720 ≤ v) := by
  obtain ⟨k, hk⟩ := exists_nat_gt (v / 360)
  have hbound : v < 360 * (k + 1) := by
    rw [div_lt_iff₀ (by norm_num)] at hk
    linarith
  obtain ⟨m, hbelow, hzero, hwrap⟩ := wrap_exact hbound
  obtain ⟨⟨j, hj⟩, hrange⟩ := raise_exact hbelow
  refine ⟨Degrees.raise (v - 360 * m), ⟨k, fun turns hturns => ?_⟩, ?_, ?_⟩
  · unfold Degrees.normalise
    rw [hwrap turns hturns, Option.map_some]
    exact congrArg some (zero_add _)
  · refine AddCommGroup.modEq_iff_nsmul.mpr ⟨j, m, ?_⟩
    rw [hj, nsmul_eq_mul, nsmul_eq_mul]
    ring
  · rw [hrange]
    rcases hzero with rfl | hzero
    · rw [Nat.cast_zero, mul_zero, sub_zero]
    · have hturns : (0 : ℚ) ≤ 360 * m := by positivity
      exact ⟨fun _ => by linarith, fun _ => by linarith⟩

theorem holds_unique {r' : ℚ} (h : Holds v r) (h' : Holds v r') : r' = r := by
  obtain ⟨n, hn⟩ := h
  obtain ⟨n', hn'⟩ := h'
  have hboth := (hn' (max n n') (le_max_right ..)).symm.trans (hn _ (le_max_left ..))
  exact Option.some.inj hboth

/-- A value that is no more than two turns below zero. -/
theorem holds_canonical (h : -720 ≤ v) : ∃ r, Holds v r ∧ Canonical v r := by
  obtain ⟨r, hholds, hturns, hrange⟩ := normalise_exact v
  exact ⟨r, hholds, hrange.mpr h, hturns⟩

theorem holds_inRange_iff (h : Holds v r) : r ∈ Set.Ico 0 360 ↔ -720 ≤ v := by
  obtain ⟨r', hholds, -, hrange⟩ := normalise_exact v
  rw [holds_unique hholds h]
  exact hrange

theorem madeCanonical_iff (v : ℚ) : MadeCanonical v ↔ -720 ≤ v := by
  constructor
  · rintro ⟨r, hholds, hcanonical, -⟩
    exact (holds_inRange_iff hholds).mp hcanonical.1
  · intro h
    obtain ⟨r, hholds, hcanonical⟩ := holds_canonical h
    exact ⟨r, hholds, hcanonical, fun _ h' => canonical_unique hcanonical h'⟩

/-- In the range, what is added can be taken away again. -/
theorem holds_sub_of_add {a b : ℚ} (ha : a ∈ Set.Ico 0 360) (hb : b ∈ Set.Ico 0 360) :
    ∃ sum, Holds (a + b) sum ∧ Holds (sum - b) a := by
  obtain ⟨sum, hsum, hrange, hturns⟩ := holds_canonical (v := a + b) (by linarith [ha.1, hb.1])
  obtain ⟨r, hr, hcanonical⟩ := holds_canonical (v := sum - b) (by linarith [hrange.1, hb.2])
  have hback : Canonical (sum - b) a := by
    refine ⟨ha, ?_⟩
    have h := hturns.symm.sub_right b
    rwa [add_sub_cancel_right] at h
  rw [canonical_unique hback hcanonical] at hr
  exact ⟨sum, hsum, hr⟩

end Normalise

/-! ## Runs -/

namespace Statement

/-- The variable that is written. -/
def target : Statement → Nat
  | make k _ | plus k _ _ | minus k _ _ => k
  | plusAssign i _ | minusAssign i _ => i

/-- The value that an angle is made of. -/
def operand (vars : Variables) : Statement → ℚ
  | make _ value => value
  | plus _ i j | plusAssign i j => vars i + vars j
  | minus _ i j | minusAssign i j => vars i - vars j

theorem exec_eq (turns : Nat) (vars : Variables) (s : Statement) :
    s.exec turns vars =
      (Degrees.normalise turns (s.operand vars)).map (Function.update vars s.target) := by
  cases s <;> rfl

end Statement

section Runs

variable {vars : Variables} {program : List Statement}

theorem ends_cons {s : Statement} {r : ℚ} {vars' : Variables} (hr : Holds (s.operand vars) r)
    (h : Ends program (Function.update vars s.target r) vars') :
    Ends (s :: program) vars vars' := by
  obtain ⟨n, hn⟩ := hr
  obtain ⟨n', hn'⟩ := h
  refine ⟨max n n', fun turns hturns => ?_⟩
  rw [List.foldlM_cons, Statement.exec_eq, hn turns (le_of_max_le_left hturns), Option.map_some]
  exact hn' turns (le_of_max_le_right hturns)

theorem holds_of_ends_cons {s : Statement} {vars' : Variables}
    (h : Ends (s :: program) vars vars') :
    ∃ r, Holds (s.operand vars) r ∧ Ends program (Function.update vars s.target r) vars' := by
  obtain ⟨r, hr, -⟩ := normalise_exact (s.operand vars)
  refine ⟨r, hr, ?_⟩
  obtain ⟨n, hn⟩ := hr
  obtain ⟨n', hn'⟩ := h
  refine ⟨max n n', fun turns hturns => ?_⟩
  have hrun := hn' turns (le_of_max_le_right hturns)
  rwa [List.foldlM_cons, Statement.exec_eq, hn turns (le_of_max_le_left hturns),
    Option.map_some] at hrun

/-- One statement keeps all angles in the range, if a value it makes one of is not below -720. -/
theorem operand_ge (hvars : ∀ i, vars i ∈ Set.Ico 0 360) {s : Statement}
    (hs : ∀ k v, s = .make k v → -720 ≤ v) : -720 ≤ s.operand vars := by
  cases s with
  | make k v => exact hs k v rfl
  | plus k i j | plusAssign i j =>
    have hi := (hvars i).1
    have hj := (hvars j).1
    change -720 ≤ vars i + vars j
    linarith
  | minus k i j | minusAssign i j =>
    have hi := (hvars i).1
    have hj := (hvars j).2
    change -720 ≤ vars i - vars j
    linarith

theorem update_inRange (hvars : ∀ i, vars i ∈ Set.Ico 0 360) {r : ℚ} (hr : r ∈ Set.Ico 0 360)
    (k : Nat) : ∀ i, Function.update vars k r i ∈ Set.Ico 0 360 := by
  intro i
  rw [Function.update_apply]
  split
  · exact hr
  · exact hvars i

theorem ends_inRange (hvars : ∀ i, vars i ∈ Set.Ico 0 360)
    (hmade : ∀ k v, Statement.make k v ∈ program → -720 ≤ v) :
    ∃ vars', Ends program vars vars' ∧ ∀ i, vars' i ∈ Set.Ico 0 360 := by
  induction program generalizing vars with
  | nil => exact ⟨vars, ⟨0, fun _ _ => rfl⟩, hvars⟩
  | cons s program ih =>
    obtain ⟨r, hr, hcanonical⟩ := holds_canonical
      (operand_ge hvars fun k v hs => hmade k v (hs ▸ List.mem_cons_self))
    obtain ⟨vars', hends, hrange⟩ := ih (update_inRange hvars hcanonical.1 s.target)
      fun k v hmem => hmade k v (List.mem_cons_of_mem _ hmem)
    exact ⟨vars', ends_cons hr hends, hrange⟩

/-- A run up to and with a statement. -/
theorem holds_of_ends_append {s : Statement} {vars' : Variables}
    (h : Ends (program ++ [s]) vars vars') :
    ∃ before, Holds (s.operand before) (vars' s.target) := by
  induction program generalizing vars with
  | nil =>
    obtain ⟨r, hr, n, hn⟩ := holds_of_ends_cons h
    have hvars := Option.some.inj (hn n le_rfl)
    rw [← hvars, Function.update_self]
    exact ⟨vars, hr⟩
  | cons t program ih =>
    obtain ⟨r, -, hrest⟩ := holds_of_ends_cons h
    exact ih hrest

end Runs

/-- **Angles are canonical** exactly if they are made of values no more than two turns below
    zero. -/
theorem canonical_iff (v : ℚ) (program : List Statement) :
    (MadeCanonical v ↔ -720 ≤ v) ∧
      (StaysCanonical program ↔ ∀ k v, .make k v ∈ program → -720 ≤ v) := by
  refine ⟨madeCanonical_iff v, fun h k v hmem => ?_, fun h pre hpre => ?_⟩
  · obtain ⟨pre, post, rfl⟩ := List.append_of_mem hmem
    obtain ⟨vars, hends, hrange, -⟩ := h (pre ++ [.make k v]) ⟨post, by simp⟩
    obtain ⟨before, hholds⟩ := holds_of_ends_append hends
    exact (holds_inRange_iff hholds).mp (hrange k)
  · have hstart : ∀ i, start i ∈ Set.Ico (0 : ℚ) 360 := fun _ => ⟨le_rfl, by norm_num [start]⟩
    obtain ⟨vars, hends, hrange⟩ := ends_inRange hstart
      fun k v hmem => h k v (hpre.subset hmem)
    exact ⟨vars, hends, hrange, fun i j => holds_sub_of_add (hrange i) (hrange j)⟩

/-- -1000 degrees are -280. -/
theorem not_forall_canonical :
    ¬ ((∀ v, MadeCanonical v) ∧ ∀ program, StaysCanonical program) := by
  intro h
  have hlow := (madeCanonical_iff (-1000)).mp (h.1 (-1000))
  norm_num at hlow

end ExactAngle

end Navtech.Utility
