/-
  Machines that move by a total step function.

  The state after `n` steps is the iterate `step^[n]`; an invariant of the step holds of it by
  `Function.Iterate.rec`. Where each step short of a goal keeps an invariant and lowers a
  measure, the machine comes to the goal (`exists_goal`).

  `Performs` says that a machine carries out a computation that may fail: it gets to a state that
  stands for what the computation yields. The rules follow how the computation is put together:
  what the machine does first (`Performs.of_leads`), a sequence (`Performs.bind`), a loop
  (`Performs.turns`).
-/
import Mathlib.Logic.Function.Iterate
import Navtech.Lib.Loop

namespace Iterate

variable {S : Type} {step : S → S} {s t u : S}

theorem exists_goal (I Goal : S → Prop) (m : S → Nat)
    (hstep : ∀ s, I s → ¬ Goal s → Goal (step s) ∨ I (step s) ∧ m (step s) < m s) (h : I s) :
    ∃ n, Goal (step^[n] s) := by
  induction hm : m s using Nat.strongRecOn generalizing s with
  | ind k ih =>
    by_cases hgoal : Goal s
    · exact ⟨0, hgoal⟩
    · rcases hstep s h hgoal with hnext | ⟨hinv, hless⟩
      · exact ⟨1, hnext⟩
      · obtain ⟨n, hn⟩ := ih (m (step s)) (hm ▸ hless) hinv rfl
        exact ⟨n + 1, hn⟩

/-- The machine gets from `s` to `t`. -/
def Leads (step : S → S) (s t : S) : Prop := ∃ n, step^[n] s = t

theorem Leads.refl (s : S) : Leads step s s := ⟨0, rfl⟩

theorem Leads.trans (hst : Leads step s t) (htu : Leads step t u) : Leads step s u := by
  obtain ⟨m, rfl⟩ := hst
  obtain ⟨n, rfl⟩ := htu
  exact ⟨n + m, Function.iterate_add_apply step n m s⟩

/-! ## Computations that may fail -/

variable {σ ε β γ : Type} {failed : ε → S → Prop} {P : β → S → Prop} {Q : γ → S → Prop}

/-- From `s`, the machine gets to a state that stands for what the computation yields. -/
def Performs (step : S → S) (failed : ε → S → Prop) (P : β → S → Prop) (s : S) :
    Except ε β → Prop
  | .ok r => ∃ t, Leads step s t ∧ P r t
  | .error e => ∃ t, Leads step s t ∧ failed e t

theorem Performs.ok {r : β} (h : P r s) : Performs step failed P s (.ok r) := ⟨s, .refl s, h⟩

theorem Performs.error {e : ε} (h : failed e s) : Performs step failed P s (.error e) :=
  ⟨s, .refl s, h⟩

theorem Performs.of_leads {x : Except ε β} (hst : Leads step s t)
    (h : Performs step failed P t x) : Performs step failed P s x := by
  cases x with
  | ok r =>
    obtain ⟨u, htu, hu⟩ := h
    exact ⟨u, hst.trans htu, hu⟩
  | error e =>
    obtain ⟨u, htu, hu⟩ := h
    exact ⟨u, hst.trans htu, hu⟩

theorem Performs.of_step {x : Except ε β} (h : Performs step failed P (step s) x) :
    Performs step failed P s x := h.of_leads ⟨1, rfl⟩

theorem Performs.bind {x : Except ε β} {k : β → Except ε γ} (h : Performs step failed P s x)
    (hk : ∀ {r t}, P r t → Performs step failed Q t (k r)) :
    Performs step failed Q s (x >>= k) := by
  cases x with
  | ok r =>
    obtain ⟨t, hst, ht⟩ := h
    exact (hk ht).of_leads hst
  | error e => exact h

/-- A relation between the states of the loop and of the machine that each turn keeps. -/
theorem Performs.turns {cond : σ → Bool} {body : σ → Except ε σ} {R : σ → S → Prop}
    (hbody : ∀ {a t}, R a t → cond a = true → Performs step failed R t (body a)) (n : Nat) {a : σ}
    (h : R a s) : Performs step failed R s (Loop.turns cond body n a) := by
  induction n generalizing a s with
  | zero => exact .ok h
  | succ n ih =>
    by_cases hcond : cond a = true
    · rw [Loop.turns_succ_of_cond n hcond]
      exact (hbody h hcond).bind ih
    · rw [Loop.turns_of_not_cond _ hcond]
      exact .ok h

end Iterate
