/-
  `Timer` of `cpp_17/utility/timer.{h,cpp}` and of `cpp/timer.{h,cpp}`.

  `do_work` waits in a loop that reads the clock in its condition and again after a sleep, and
  takes the time it counts from anew when that has got more than 15 seconds away. Readings are
  numbered in the order they are made; those of the one class are in nanoseconds, those of the
  other in whole milliseconds. Sums are exact.

  If the time-out stays a second below the 15 (and the unit more), and readings are no more than
  a second apart, the condition fails before the start is ever moved (`wait_ends`). Else there is
  a clock whose readings all miss the interval in which the loop could end, again after each
  move (`wait_stalling`). So the timer fires on every clock exactly for the small time-outs
  (`fires_iff`); that of the legacy reconnect check, which is 15 seconds, is none of them, and
  clocks that move on by 11 milliseconds for each sleep never let it fire.
-/
import Mathlib.Algebra.Order.Ring.Int
import Mathlib.Tactic.Ring

namespace Navtech

namespace Utility

/-! ## The waiting loop -/

/-- The time that is counted from, and how often the clock and the flag have been read. -/
structure Waiting where
  now : Int
  readings : Nat
  trips : Nat
deriving DecidableEq, Repr

namespace Waiting

section Loop

variable (limit : Int) (passed : Int → Int) (clock : Nat → Int)

/-- The body of the loop, after the condition has read the clock. -/
def trip (w : Waiting) : Waiting :=
  if limit < passed (clock (w.readings + 1) - w.now) then
    ⟨clock (w.readings + 2), w.readings + 3, w.trips + 1⟩
  else ⟨w.now, w.readings + 2, w.trips + 1⟩

/-- The loop, with a number of trips that it may take. -/
def wait (timeout : Int) (stopRequested : Nat → Bool) : Nat → Waiting → Option Waiting
  | 0, _ => none
  | n + 1, w =>
    if clock w.readings < w.now + timeout then
      let w := w.trip limit passed clock
      if stopRequested w.trips then some w else wait timeout stopRequested n w
    else some { w with readings := w.readings + 1 }

end Loop

end Waiting

/-- What a call of `do_work` has done. -/
structure Outcome where
  readings : Nat
  calls : Nat
deriving DecidableEq, Repr

/-- `do_work`; the call is `due` if the timer is enabled and has a callback. -/
def work (limit : Int) (passed : Int → Int) (timeout : Int) (due : Bool) (clock : Nat → Int)
    (stopRequested : Nat → Bool) (turns : Nat) : Option Outcome :=
  (Waiting.wait limit passed clock timeout stopRequested turns ⟨clock 0, 1, 0⟩).map fun w =>
    ⟨w.readings, if due then 1 else 0⟩

/-- A clock whose readings do not fall, are no more than a second apart and pass every time. -/
structure Admissible (second : Int) (clock : Nat → Int) : Prop where
  le_succ : ∀ i, clock i ≤ clock (i + 1)
  succ_le : ∀ i, clock (i + 1) ≤ clock i + second
  unbounded : ∀ t, ∃ i, t ≤ clock i

/-- On every clock a call that is not asked to stop ends, and calls back once if it is to, no
    earlier than it should. -/
def Fires (second timeout : Int) (due : Bool)
    (doWork : (Nat → Int) → (Nat → Bool) → Nat → Option Outcome) : Prop :=
  ∀ clock, Admissible second clock → ∃ o,
    (∃ n, ∀ turns, n ≤ turns → doWork clock (fun _ => false) turns = some o) ∧
    (due = true → o.calls = 1) ∧ timeout ≤ clock (o.readings - 1) - clock 0

end Utility

open Utility

/-! ## The two timers -/

/-- The members of `Timer` that its thread reads. -/
structure Timer where
  /-- `timeout_in_milliseconds`. -/
  timeoutInMilliseconds : Int
  isEnabled : Bool
  /-- `callback != nullptr`. -/
  callback : Bool
deriving DecidableEq, Repr

namespace Timer

/-- A millisecond, in nanoseconds. -/
def millisecond : Int := 1000000

/-- `timeout(ms)`, which the thread sees at its next look. -/
def timeout (t : Timer) (newTimeout : Int) : Timer := { t with timeoutInMilliseconds := newTimeout }

/-- `do_work` in nanoseconds, as the clock counts. -/
def doWork (t : Timer) : (Nat → Int) → (Nat → Bool) → Nat → Option Outcome :=
  work (15000 * millisecond) id (t.timeoutInMilliseconds * millisecond) (t.isEnabled && t.callback)

/-- The callback comes once for each time-out, as said for the loop. -/
def Fires (t : Timer) : Prop :=
  Utility.Fires (1000 * millisecond) (t.timeoutInMilliseconds * millisecond)
    (t.isEnabled && t.callback) t.doWork

end Timer

/-- `connection_check_timeout`. -/
def connectionCheckTimeout : Int := 5000

namespace Legacy

/-- The members of the first SDK's timer. -/
structure Timer where
  /-- `_timeoutms`. -/
  timeoutms : UInt32
  isEnabled : Bool
  callback : Bool
deriving DecidableEq, Repr

namespace Timer

def setTimeoutms (t : Timer) (newTimeout : UInt32) : Timer := { t with timeoutms := newTimeout }

/-- `DoWork` in milliseconds, with differences taken without a sign. -/
def doWork (t : Timer) : (Nat → Int) → (Nat → Bool) → Nat → Option Outcome :=
  work 15000 (fun t => t.natAbs) t.timeoutms.toNat (t.isEnabled && t.callback)

def Fires (t : Timer) : Prop :=
  Utility.Fires 1000 t.timeoutms.toNat (t.isEnabled && t.callback) t.doWork

end Timer

/-- `CONNECTION_CHECK_TIMEOUT`. -/
def connectionCheckTimeout : UInt16 := 15000

end Legacy

/-! ## Small time-outs -/

namespace Utility

variable {limit second timeout : Int} {passed : Int → Int} {clock : Nat → Int}

theorem Admissible.mono (h : Admissible second clock) {i j : Nat} (hij : i ≤ j) :
    clock i ≤ clock j := by
  induction hij with
  | refl => exact le_rfl
  | step _ ih => exact ih.trans (h.le_succ _)

/-- The last reading of the clock is that of the condition. -/
theorem wait_over {w : Waiting} (hover : w.now + timeout ≤ clock w.readings) : ∃ w',
    (∀ turns, 0 < turns → w.wait limit passed clock timeout (fun _ => false) turns = some w') ∧
      w.now + timeout ≤ clock (w'.readings - 1) := by
  refine ⟨{ w with readings := w.readings + 1 }, fun turns hturns => ?_, hover⟩
  obtain ⟨turns, rfl⟩ := Nat.exists_eq_succ_of_ne_zero hturns.ne'
  exact if_neg (not_lt.mpr hover)

/-- The start is not moved as long as the condition holds. -/
theorem wait_ends (h : Admissible second clock) (hpassed : ∀ t, 0 ≤ t → passed t = t)
    (hsmall : timeout + second ≤ limit + 1) {n last : Nat} {w : Waiting}
    (hnow : w.now ≤ clock w.readings) (hlast : w.now + timeout ≤ clock last)
    (hn : last ≤ w.readings + n) : ∃ w',
    (∀ turns, n < turns → w.wait limit passed clock timeout (fun _ => false) turns = some w') ∧
      w.now + timeout ≤ clock (w'.readings - 1) := by
  induction n generalizing w with
  | zero => exact wait_over (hlast.trans (h.mono hn))
  | succ n ih =>
    by_cases hcond : clock w.readings < w.now + timeout
    swap
    · obtain ⟨w', hends, hreading⟩ := wait_over (not_lt.mp hcond)
      exact ⟨w', fun turns hturns => hends turns (by omega), hreading⟩
    have hnext := h.le_succ w.readings
    have hstep := h.succ_le w.readings
    have hstays : w.trip limit passed clock = ⟨w.now, w.readings + 2, w.trips + 1⟩ := by
      refine if_neg ?_
      rw [hpassed _ (by omega)]
      omega
    have hlater := hnext.trans (h.le_succ (w.readings + 1))
    obtain ⟨w', hends, hreading⟩ := ih (w := ⟨w.now, w.readings + 2, w.trips + 1⟩)
      (hnow.trans hlater) hlast (by dsimp only; omega)
    refine ⟨w', fun turns hturns => ?_, hreading⟩
    obtain ⟨turns, rfl⟩ := Nat.exists_eq_succ_of_ne_zero (show turns ≠ 0 by omega)
    rw [Waiting.wait, if_pos hcond, hstays]
    exact hends turns (by omega)

theorem fires_of_le (hpassed : ∀ t, 0 ≤ t → passed t = t) (hsmall : timeout + second ≤ limit + 1)
    (due : Bool) : Fires second timeout due (work limit passed timeout due) := by
  intro clock hclock
  obtain ⟨last, hlast⟩ := hclock.unbounded (clock 0 + timeout)
  obtain ⟨w, hends, hreading⟩ := wait_ends hclock hpassed hsmall (w := ⟨clock 0, 1, 0⟩)
    (hclock.le_succ 0) hlast (Nat.le_add_left last 1)
  refine ⟨⟨w.readings, if due then 1 else 0⟩, ⟨last + 1, fun turns hturns => ?_⟩,
    fun hdue => ?_, ?_⟩
  · unfold work
    rw [hends turns hturns, Option.map_some]
  · exact if_pos hdue
  · dsimp only at hreading ⊢
    omega

/-! ## Large time-outs -/

/-- A clock that moves on by `step` in each sleep, and by `late` before the first. From one start to
    the next there are `k + 1` sleeps. -/
def stalling (step late : Int) (k : Nat) (i : Nat) : Int :=
  (i / (2 * k + 3) : Nat) * (late + (k + 1) * step) +
    if i % (2 * k + 3) = 0 then 0 else late + (i % (2 * k + 3) / 2 : Nat) * step

section Stalling

variable {step late : Int} {k m j : Nat}

theorem stalling_start (step late : Int) (k m : Nat) :
    stalling step late k (m * (2 * k + 3)) = m * (late + (k + 1) * step) := by
  unfold stalling
  rw [Nat.mul_div_cancel _ (by omega), Nat.mul_mod_left, if_pos rfl, add_zero]

theorem stalling_later (step late : Int) (m : Nat) (hj : j + 1 < 2 * k + 3) :
    stalling step late k (m * (2 * k + 3) + (j + 1)) =
      m * (late + (k + 1) * step) + (late + ((j + 1) / 2 : Nat) * step) := by
  have hdiv : (m * (2 * k + 3) + (j + 1)) / (2 * k + 3) = m := by
    rw [Nat.mul_comm, Nat.mul_add_div (by omega), Nat.div_eq_of_lt hj, Nat.add_zero]
  have hmod : (m * (2 * k + 3) + (j + 1)) % (2 * k + 3) = j + 1 := by
    rw [Nat.mul_comm, Nat.mul_add_mod, Nat.mod_eq_of_lt hj]
  unfold stalling
  rw [hdiv, hmod, if_neg (Nat.succ_ne_zero j)]

/-- From one reading to the next. -/
theorem stalling_succ (step late : Int) (k i : Nat) :
    stalling step late k (i + 1) = stalling step late k i ∨
      stalling step late k (i + 1) = stalling step late k i + late ∨
      stalling step late k (i + 1) = stalling step late k i + step := by
  obtain ⟨m, j, hj, rfl⟩ : ∃ m j, j < 2 * k + 3 ∧ i = m * (2 * k + 3) + j :=
    ⟨i / (2 * k + 3), i % (2 * k + 3), Nat.mod_lt _ (by omega), by
      rw [Nat.mul_comm, Nat.div_add_mod]⟩
  cases j with
  | zero =>
    have hnext := stalling_later step late (k := k) (j := 0) m (by omega)
    rw [Nat.zero_add, Nat.div_eq_of_lt (by decide), Nat.cast_zero, zero_mul, add_zero] at hnext
    rw [Nat.add_zero (m * (2 * k + 3)), hnext, stalling_start]
    exact .inr (.inl rfl)
  | succ j =>
    rw [stalling_later step late m hj, Nat.add_assoc (m * (2 * k + 3))]
    rcases Nat.lt_or_ge (j + 2) (2 * k + 3) with hlt | hge
    · rw [stalling_later step late m hlt]
      rcases Nat.even_or_odd' j with ⟨i, rfl | rfl⟩
      · rw [show (2 * i + 1 + 1) / 2 = i + 1 by omega, show (2 * i + 1) / 2 = i by omega]
        refine .inr (.inr ?_)
        push_cast
        ring
      · rw [show (2 * i + 1 + 1 + 1) / 2 = i + 1 by omega,
          show (2 * i + 1 + 1) / 2 = i + 1 by omega]
        exact .inl rfl
    · -- the last reading of the sleeps and the next start are the same
      obtain rfl : j = 2 * k + 1 := by omega
      have hstart : m * (2 * k + 3) + (2 * k + 1 + 1 + 1) = (m + 1) * (2 * k + 3) := by ring
      rw [hstart, stalling_start, show (2 * k + 1 + 1) / 2 = k + 1 by omega]
      refine .inl ?_
      push_cast
      ring

theorem admissible_stalling {second : Int} (hlate : 0 ≤ late ∧ late ≤ second)
    (hstep : 0 < step ∧ step ≤ second) (k : Nat) : Admissible second (stalling step late k) where
  le_succ i := by
    have h := stalling_succ step late k i
    omega
  succ_le i := by
    have h := stalling_succ step late k i
    omega
  unbounded t := by
    refine ⟨t.toNat * (2 * k + 3), ?_⟩
    have hround : 1 ≤ late + (k + 1) * step := by
      have hsleeps := mul_pos (show (0 : Int) < k + 1 by omega) hstep.1
      omega
    rw [stalling_start]
    calc t ≤ (t.toNat : Int) := Int.self_le_toNat t
      _ = t.toNat * 1 := (mul_one _).symm
      _ ≤ t.toNat * (late + (k + 1) * step) :=
        mul_le_mul_of_nonneg_left hround (Int.natCast_nonneg _)

/-- Each start is followed by the next. -/
theorem wait_stalling {limit timeout : Int} {passed : Int → Int}
    (hpassed : ∀ t, 0 ≤ t → passed t = t) (hlate : 0 ≤ late) (hstep : 0 < step)
    (hbefore : late + k * step < timeout) (hstays : late + k * step ≤ limit)
    (hmoves : limit < late + (k + 1) * step) (turns : Nat) {w : Waiting} (hj : j ≤ k)
    (hnow : w.now = m * (late + (k + 1) * step))
    (hreadings : w.readings = m * (2 * k + 3) + (2 * j + 1)) :
    w.wait limit passed (stalling step late k) timeout (fun _ => false) turns = none := by
  induction turns generalizing w m j with
  | zero => rfl
  | succ turns ih =>
    have hsleeps : (j : Int) * step ≤ k * step :=
      mul_le_mul_of_nonneg_right (Int.ofNat_le.mpr hj) hstep.le
    have hread : stalling step late k w.readings = w.now + (late + j * step) := by
      rw [hreadings, stalling_later step late m (show 2 * j + 1 < 2 * k + 3 by omega), ← hnow,
        show (2 * j + 1) / 2 = j by omega]
    have hcheck : stalling step late k (w.readings + 1) = w.now + (late + (j + 1) * step) := by
      rw [hreadings, Nat.add_assoc,
        stalling_later step late m (show 2 * j + 1 + 1 < 2 * k + 3 by omega), ← hnow,
        show (2 * j + 1 + 1) / 2 = j + 1 by omega, Nat.cast_succ]
    have hcond : stalling step late k w.readings < w.now + timeout := by
      rw [hread]
      omega
    rw [Waiting.wait, if_pos hcond]
    dsimp only
    rw [if_neg Bool.false_ne_true]
    unfold Waiting.trip
    have hnonneg : 0 ≤ (j + 1) * step := mul_nonneg (by omega) hstep.le
    rw [hcheck, add_sub_cancel_left, hpassed _ (by omega)]
    rcases Nat.lt_or_eq_of_le hj with hlt | rfl
    · have hnext : ((j : Int) + 1) * step ≤ k * step :=
        mul_le_mul_of_nonneg_right (by omega) hstep.le
      rw [if_neg (by omega)]
      exact ih hlt hnow (by dsimp only; omega)
    · have hstart : w.readings + 2 = (m + 1) * (2 * j + 3) := by
        rw [hreadings]
        ring
      rw [if_pos hmoves, hstart, stalling_start]
      refine ih (m := m + 1) (j := 0) (Nat.zero_le _) (by push_cast; rfl) ?_
      dsimp only
      omega

theorem not_fires_of_lt {limit timeout second : Int} {passed : Int → Int}
    (hpassed : ∀ t, 0 ≤ t → passed t = t) (hlate : 0 ≤ late ∧ late ≤ second)
    (hstep : 0 < step ∧ step ≤ second) (hbefore : late + k * step < timeout)
    (hstays : late + k * step ≤ limit) (hmoves : limit < late + (k + 1) * step) (due : Bool) :
    ¬ Fires second timeout due (work limit passed timeout due) := by
  intro h
  obtain ⟨o, ⟨n, hn⟩, -⟩ := h (stalling step late k) (admissible_stalling hlate hstep k)
  have hends := hn n le_rfl
  have hstart := stalling_start step late k 0
  rw [Nat.zero_mul, Nat.cast_zero, zero_mul] at hstart
  unfold work at hends
  rw [wait_stalling (m := 0) (j := 0) hpassed hlate.1 hstep.1 hbefore hstays hmoves n
    (Nat.zero_le k) (by rw [hstart, Nat.cast_zero, zero_mul]) (by rw [Nat.zero_mul])] at hends
  cases hends

end Stalling

/-- A time-out is met on every clock exactly if it is more than a second shorter than the time
    after which the start is moved. -/
theorem fires_work_iff {second timeout : Int} {passed : Int → Int} {k : Nat}
    (hpassed : ∀ t, 0 ≤ t → passed t = t) (hsecond : 0 < second) (due : Bool) :
    Fires second timeout due (work ((k + 1) * second) passed timeout due) ↔
      timeout ≤ k * second + 1 := by
  have hlimit : ((k : Int) + 1) * second = k * second + second := add_one_mul _ _
  constructor
  · intro h
    by_contra hlarge
    exact @not_fires_of_lt second 1 k _ _ _ _ hpassed ⟨by decide, by omega⟩ ⟨hsecond, le_rfl⟩
      (by omega) (by omega) (by omega) due h
  · intro h
    exact fires_of_le hpassed (by omega) due

end Utility

theorem Timer.fires_iff_le (t : Timer) : t.Fires ↔ t.timeoutInMilliseconds ≤ 14000 := by
  have hlimit : 15000 * Timer.millisecond = ((14 : Nat) + 1) * (1000 * Timer.millisecond) := rfl
  have hpassed : ∀ t : Int, 0 ≤ t → id t = t := fun _ _ => rfl
  unfold Timer.Fires Timer.doWork
  rw [hlimit, fires_work_iff hpassed (by decide)]
  unfold Timer.millisecond
  omega

theorem Legacy.Timer.fires_iff_le (t : Legacy.Timer) : t.Fires ↔ t.timeoutms ≤ 14001 := by
  have hlimit : (15000 : Int) = ((14 : Nat) + 1) * 1000 := rfl
  unfold Legacy.Timer.Fires Legacy.Timer.doWork
  rw [hlimit, fires_work_iff (fun _ => Int.natAbs_of_nonneg) (by decide), UInt32.le_iff_toNat_le]
  change _ ↔ _ ≤ 14001
  omega

/-- **The timer fires** exactly for time-outs of up to 14 seconds, with a clock of milliseconds
    one more. -/
theorem fires_iff (t : Timer) (newTimeout : Int) (l : Legacy.Timer) (newTimeoutms : UInt32) :
    ((t.timeout newTimeout).Fires ↔ newTimeout ≤ 14000) ∧
      ((l.setTimeoutms newTimeoutms).Fires ↔ newTimeoutms ≤ 14001) :=
  ⟨(t.timeout newTimeout).fires_iff_le, (l.setTimeoutms newTimeoutms).fires_iff_le⟩

/-- The reconnect check of the one client fires. -/
theorem connectionCheck_fires : (Timer.mk connectionCheckTimeout true true).Fires :=
  (Timer.fires_iff_le _).mpr (by decide)

/-- That of the other does not, with sleeps of 11 milliseconds and nothing else that takes time:
    the last reading below 15 seconds is 14993, and the next 15004. -/
theorem not_forall_fires :
    ¬ ((∀ newTimeout : Int, connectionCheckTimeout ≤ newTimeout →
        (Timer.mk newTimeout true true).Fires) ∧
      ∀ newTimeout : UInt32, Legacy.connectionCheckTimeout.toUInt32 ≤ newTimeout →
        (Legacy.Timer.mk newTimeout true true).Fires) := by
  intro h
  have hlegacy := h.2 Legacy.connectionCheckTimeout.toUInt32 (UInt32.le_refl _)
  exact @not_fires_of_lt 11 0 1363 15000 15000 1000 _ (fun _ => Int.natAbs_of_nonneg)
    (by decide) (by decide) (by decide) (by decide) (by decide) true hlegacy

end Navtech
