/-
  While loops whose body may fail.

  `turns cond body n s` takes up to `n` turns from the state `s`, as long as the condition
  holds. An invariant survives the turns if it survives one (`turns_invariant`), the turns
  succeed if each does on states with the invariant (`turns_succeeds`), and a measure that
  each turn lowers says how many turns are enough (`turns_ended`).
-/
import Navtech.Lib.CheckedView

namespace Loop

open CheckedView

variable {S ε : Type} {cond : S → Bool} {body : S → Except ε S} {s s' : S}

def turns (cond : S → Bool) (body : S → Except ε S) : Nat → S → Except ε S
  | 0, s => .ok s
  | n + 1, s => if cond s then body s >>= turns cond body n else .ok s

theorem turns_succ_of_cond (n : Nat) (h : cond s = true) :
    turns cond body (n + 1) s = body s >>= turns cond body n := if_pos h

theorem turns_of_not_cond (n : Nat) (h : cond s ≠ true) : turns cond body n s = .ok s := by
  cases n with
  | zero => rfl
  | succ n => exact if_neg h

theorem turns_invariant {I : S → Prop}
    (hstep : ∀ {s s'}, I s → cond s = true → body s = .ok s' → I s') {n : Nat} (h0 : I s)
    (h : turns cond body n s = .ok s') : I s' := by
  induction n generalizing s with
  | zero =>
    obtain rfl := Except.ok.inj h
    exact h0
  | succ n ih =>
    by_cases hcond : cond s = true
    · rw [turns_succ_of_cond n hcond] at h
      obtain ⟨t, hbody, hrest⟩ := bind_eq_ok.mp h
      exact ih (hstep h0 hcond hbody) hrest
    · rw [turns_of_not_cond _ hcond] at h
      obtain rfl := Except.ok.inj h
      exact h0

theorem turns_succeeds {I : S → Prop}
    (hstep : ∀ {s}, I s → cond s = true → ∃ s', body s = .ok s' ∧ I s') (n : Nat) (h0 : I s) :
    Succeeds (turns cond body n s) := by
  induction n generalizing s with
  | zero => exact succeeds_ok s
  | succ n ih =>
    by_cases hcond : cond s = true
    · obtain ⟨t, hbody, ht⟩ := hstep h0 hcond
      rw [turns_succ_of_cond n hcond, hbody]
      exact ih ht
    · rw [turns_of_not_cond _ hcond]
      exact succeeds_ok s

/-- The measure may decrease only on states with the invariant. -/
theorem turns_ended {I : S → Prop} {m : S → Nat}
    (hstep : ∀ {s s'}, I s → cond s = true → body s = .ok s' → I s' ∧ m s' < m s) {n : Nat}
    (h0 : I s) (hn : m s < n) (h : turns cond body n s = .ok s') : cond s' = false := by
  induction n generalizing s with
  | zero => exact absurd hn (Nat.not_lt_zero _)
  | succ n ih =>
    by_cases hcond : cond s = true
    · rw [turns_succ_of_cond n hcond] at h
      obtain ⟨t, hbody, hrest⟩ := bind_eq_ok.mp h
      obtain ⟨ht, hm⟩ := hstep h0 hcond hbody
      exact ih ht (by omega) hrest
    · rw [turns_of_not_cond _ hcond] at h
      obtain rfl := Except.ok.inj h
      exact Bool.eq_false_iff.mpr hcond

end Loop
