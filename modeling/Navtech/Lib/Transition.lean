/-
  Systems that move by a partial step function, and what holds in every state they reach.

  `step s a` is the state after the action `a`, or nothing where `a` is not enabled. `Reach`
  collects the states of the runs whose steps all meet a condition `ok` on the state before the
  step and the action; with `ok` always true these are all runs. An invariant need only be
  shown to survive the steps that meet the condition (`Reach.invariant`), and may rely on one
  shown before (`Reach.invariant_of`). `run` executes a list of actions and checks the
  condition on the way, so that a state with a given property can be shown reachable by
  computing (`exists_reach`), or by a measure that steps towards it lower (`Reach.exists_goal`).

  A property that a single step may lose is followed along a list of actions: it holds in every
  state (`EveryState`) exactly if every step meets the condition under which a step keeps it
  (`everyState_iff`).
-/
import Mathlib.Logic.Basic

namespace Transition

variable {S A : Type} {step : S → A → Option S} {ok : S → A → Prop} {init s : S}

/-- The states of the runs from `init` whose steps all meet `ok`. -/
inductive Reach (step : S → A → Option S) (ok : S → A → Prop) (init : S) : S → Prop where
  | init : Reach step ok init init
  | step {s s' : S} {a : A} : Reach step ok init s → ok s a → step s a = some s' →
      Reach step ok init s'

/-- Every step. -/
abbrev always (_ : S) (_ : A) : Prop := True

theorem Reach.invariant {I : S → Prop} (h : Reach step ok init s) (h0 : I init)
    (hstep : ∀ {s a s'}, I s → ok s a → step s a = some s' → I s') : I s := by
  induction h with
  | init => exact h0
  | step _ hok hs ih => exact hstep ih hok hs

/-- An invariant whose proof uses another one. -/
theorem Reach.invariant_of {I J : S → Prop} (h : Reach step ok init s)
    (hJ : ∀ {s}, Reach step ok init s → J s) (h0 : I init)
    (hstep : ∀ {s a s'}, J s → I s → ok s a → step s a = some s' → I s') : I s := by
  induction h with
  | init => exact h0
  | step hr hok hs ih => exact hstep (hJ hr) ih hok hs

/-- Fewer conditions, more states. -/
theorem Reach.mono {ok' : S → A → Prop} (hok : ∀ s a, ok s a → ok' s a)
    (h : Reach step ok init s) : Reach step ok' init s := by
  induction h with
  | init => exact .init
  | step _ ha hs ih => exact .step ih (hok _ _ ha) hs

/-- The state after the actions, if each is enabled and meets the condition in its turn. -/
def run (step : S → A → Option S) (ok : S → A → Prop) [∀ s a, Decidable (ok s a)] :
    S → List A → Option S
  | s, [] => some s
  | s, a :: as => if ok s a then (step s a).bind fun s' => run step ok s' as else none

theorem run_append [∀ s a, Decidable (ok s a)] (s : S) (as bs : List A) :
    run step ok s (as ++ bs) = (run step ok s as).bind fun s' => run step ok s' bs := by
  induction as generalizing s with
  | nil => rfl
  | cons a as ih =>
    rw [List.cons_append, run, run]
    split
    · rw [Option.bind_assoc]
      exact congrArg _ (funext fun s' => ih s')
    · rfl

theorem reach_of_run [∀ s a, Decidable (ok s a)] {as : List A} {s' : S}
    (hs : Reach step ok init s) (h : run step ok s as = some s') : Reach step ok init s' := by
  induction as generalizing s with
  | nil =>
    cases h
    exact hs
  | cons a as ih =>
    rw [run] at h
    split at h
    · rename_i hok
      obtain ⟨t, hst, ht⟩ := Option.bind_eq_some_iff.mp h
      exact ih (.step hs hok hst) ht
    · cases h

/-- A state with the property `P`, reached by executing actions. -/
theorem exists_reach (step : S → A → Option S) (ok : S → A → Prop)
    [∀ s a, Decidable (ok s a)] (init : S) (as : List A) (P : S → Prop) [DecidablePred P]
    (h : ((run step ok init as).any fun s => decide (P s)) = true) :
    ∃ s, Reach step ok init s ∧ P s := by
  obtain ⟨s, hrun, hs⟩ := (Option.any_eq_true _ _).mp h
  exact ⟨s, reach_of_run .init hrun, of_decide_eq_true hs⟩

theorem Reach.trans {t : S} (h : Reach step ok init s) (h' : Reach step ok s t) :
    Reach step ok init t := by
  induction h' with
  | init => exact h
  | step _ hok hs ih => exact .step ih hok hs

/-- Where each state short of a goal has a step that keeps an invariant and lowers a measure, there
    is a run to the goal. -/
theorem Reach.exists_goal (I Goal : S → Prop) (m : S → Nat)
    (hstep : ∀ s, I s → ¬ Goal s →
      ∃ a s', ok s a ∧ step s a = some s' ∧ I s' ∧ m s' < m s) (h : I s) :
    ∃ t, Reach step ok s t ∧ I t ∧ Goal t := by
  induction hm : m s using Nat.strongRecOn generalizing s with
  | ind k ih =>
    by_cases hgoal : Goal s
    · exact ⟨s, .init, h, hgoal⟩
    · obtain ⟨a, s', hok, hs, hinv, hless⟩ := hstep s h hgoal
      obtain ⟨t, hreach, ht⟩ := ih (m s') (hm ▸ hless) hinv rfl
      exact ⟨t, Reach.trans (.step .init hok hs) hreach, ht⟩

/-! ## Along a list of actions -/

/-- `P` holds before and after every step, as far as the actions are enabled. -/
def EveryState (step : S → A → Option S) (P : S → Prop) : S → List A → Prop
  | s, [] => P s
  | s, a :: as => P s ∧ ∀ s', step s a = some s' → EveryState step P s' as

/-- Every step meets `Q`, as far as the actions are enabled. -/
def EveryStep (step : S → A → Option S) (Q : S → A → Prop) : S → List A → Prop
  | _, [] => True
  | s, a :: as => ∀ s', step s a = some s' → Q s a ∧ EveryStep step Q s' as

variable {P J : S → Prop} {Q : S → A → Prop}

theorem EveryState.first {as : List A} (h : EveryState step P s as) : P s := by
  cases as with
  | nil => exact h
  | cons a as => exact h.1

/-- `J` is an invariant of all steps, and in its states a step keeps `P` exactly if it meets
    `Q`. -/
theorem everyState_iff (hJ : ∀ {s a s'}, J s → step s a = some s' → J s')
    (hPQ : ∀ {s a s'}, J s → P s → step s a = some s' → (P s' ↔ Q s a)) (as : List A)
    (hs : J s) (h0 : P s) : EveryState step P s as ↔ EveryStep step Q s as := by
  induction as generalizing s with
  | nil => exact iff_of_true h0 trivial
  | cons a as ih =>
    constructor
    · intro h s' hstep
      have hlater := h.2 s' hstep
      exact ⟨(hPQ hs h0 hstep).mp hlater.first, (ih (hJ hs hstep) hlater.first).mp hlater⟩
    · intro h
      refine ⟨h0, fun s' hstep => ?_⟩
      obtain ⟨hq, hlater⟩ := h s' hstep
      exact (ih (hJ hs hstep) ((hPQ hs h0 hstep).mpr hq)).mpr hlater

end Transition
