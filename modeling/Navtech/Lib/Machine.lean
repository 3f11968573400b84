/-
  Machines that hand out values and may fail, and two of them side by side.

  `run step s es` feeds the events to a machine one at a time and collects what it hands out.
  A failure ends the run. `Allowed` is a condition on the events, each in the state in which it
  happens. `Matches` compares the results of two machines: both fail, or they end in related
  states and have handed out the same, as far as the two observations see. If one allowed event
  matches from related states, then a run does (`run_matches`); and a machine that follows a
  specification with a history of its own in one event follows it in a run (`run_trace`).
-/
import Navtech.Lib.CheckedView

namespace Machine

open CheckedView

variable {S T E O P V H ε δ : Type}

/-- The state after the events, with everything handed out on the way. -/
def run (step : S → E → Except ε (S × List O)) (s : S) : List E → Except ε (S × List O)
  | [] => .ok (s, [])
  | e :: es => do
    let r ← step s e
    let others ← run step r.1 es
    return (others.1, r.2 ++ others.2)

/-- Every event is allowed in the state in which it happens. -/
def Allowed (step : S → E → Except ε (S × List O)) (allowed : S → E → Prop) (s : S) :
    List E → Prop
  | [] => True
  | e :: es => allowed s e ∧ ∀ r, step s e = .ok r → Allowed step allowed r.1 es

/-- An event that is allowed and succeeds, before an allowed run. -/
theorem allowed_cons {step : S → E → Except ε (S × List O)} {allowed : S → E → Prop} {s : S}
    {e : E} {es : List E} {r : S × List O} (he : allowed s e) (hs : step s e = .ok r)
    (hes : Allowed step allowed r.1 es) : Allowed step allowed s (e :: es) := by
  refine ⟨he, fun r' hr' => ?_⟩
  rw [hs] at hr'
  obtain rfl := Except.ok.inj hr'
  exact hes

/-- Both fail, or both end in related states and have handed out the same. -/
def Matches (R : S → T → Prop) (f : O → Option V) (g : P → Option V) :
    Except ε (S × List O) → Except δ (T × List P) → Prop
  | .ok r, .ok r' => R r.1 r'.1 ∧ r.2.filterMap f = r'.2.filterMap g
  | .error _, .error _ => True
  | _, _ => False

section Matches

variable {R : S → T → Prop} {f : O → Option V} {g : P → Option V}
  {a : Except ε (S × List O)} {b : Except δ (T × List P)}

theorem matches_ok {s : S} {t : T} {o : List O} {p : List P} (hR : R s t)
    (hout : o.filterMap f = p.filterMap g) :
    Matches R f g (.ok (s, o) : Except ε _) (.ok (t, p) : Except δ _) := ⟨hR, hout⟩

/-- What is seen of both is the same. -/
theorem Matches.observed (h : Matches R f g a b) :
    a.toOption.map (fun r => r.2.filterMap f) = b.toOption.map (fun r => r.2.filterMap g) := by
  cases a with
  | error e =>
    cases b with
    | error d => rfl
    | ok r' => exact h.elim
  | ok r =>
    cases b with
    | error d => exact h.elim
    | ok r' => exact congrArg some h.2

/-- Both fail. -/
theorem matches_of_not_succeeds (ha : ¬ Succeeds a) (hb : ¬ Succeeds b) : Matches R f g a b := by
  cases a with
  | ok r => exact absurd ⟨r, rfl⟩ ha
  | error e =>
    cases b with
    | ok r' => exact absurd ⟨r', rfl⟩ hb
    | error d => trivial

/-- The continuations may rely on related states. -/
theorem Matches.bind {A : S → T → Prop} {k : S × List O → Except ε (S × List O)}
    {k' : T × List P → Except δ (T × List P)} (h : Matches A f g a b)
    (hk : ∀ r r', a = .ok r → A r.1 r'.1 → r.2.filterMap f = r'.2.filterMap g →
      Matches R f g (k r) (k' r')) : Matches R f g (a >>= k) (b >>= k') := by
  cases a with
  | error e =>
    cases b with
    | error d => trivial
    | ok r' => exact h.elim
  | ok r =>
    cases b with
    | error d => exact h.elim
    | ok r' => exact hk r r' rfl h.1 h.2

end Matches

/-- **Two machines.** If every allowed event matches, then every allowed run does. -/
theorem run_matches {step : S → E → Except ε (S × List O)} {step' : T → E → Except δ (T × List P)}
    {allowed : S → E → Prop} {R : S → T → Prop} {f : O → Option V} {g : P → Option V}
    (hstep : ∀ {s t e}, R s t → allowed s e → Matches R f g (step s e) (step' t e))
    {s : S} {t : T} (hR : R s t) {es : List E} (hes : Allowed step allowed s es) :
    Matches R f g (run step s es) (run step' t es) := by
  induction es generalizing s t with
  | nil => exact matches_ok hR rfl
  | cons e es ih =>
    obtain ⟨he, hrest⟩ := hes
    refine (hstep hR he).bind fun r r' hr hR' hout => ?_
    refine (ih hR' (hrest r hr)).bind fun q q' _ hQ hout' => matches_ok hQ ?_
    rw [List.filterMap_append, List.filterMap_append, hout, hout']

/-- A run of a first event and others. -/
theorem run_cons_ok {step : S → E → Except ε (S × List O)} {s : S} {e : E} {es : List E}
    {r : S × List O} (h : run step s (e :: es) = .ok r) :
    ∃ r₁ r₂, step s e = .ok r₁ ∧ run step r₁.1 es = .ok r₂ ∧ r = (r₂.1, r₁.2 ++ r₂.2) := by
  obtain ⟨r₁, hstep, h⟩ := bind_eq_ok.mp h
  obtain ⟨r₂, hrun, h⟩ := bind_eq_ok.mp h
  exact ⟨r₁, r₂, hstep, hrun, (Except.ok.inj h).symm⟩

theorem run_one (step : S → E → Except ε (S × List O)) (s : S) (e : E) :
    run step s [e] = step s e := by
  show (step s e >>= fun r => pure (r.1, r.2 ++ [])) = step s e
  cases step s e with
  | error d => rfl
  | ok r =>
    show Except.ok (r.1, r.2 ++ []) = _
    rw [List.append_nil]

/-- A run of two parts. -/
theorem run_append_bind (step : S → E → Except ε (S × List O)) (s : S) (es es' : List E) :
    run step s (es ++ es') =
      run step s es >>= fun r => (run step r.1 es').map fun q => (q.1, r.2 ++ q.2) := by
  induction es generalizing s with
  | nil =>
    show run step s es' = (run step s es').map _
    cases run step s es' with
    | error d => rfl
    | ok r => rfl
  | cons e es ih =>
    show (step s e >>= fun r => run step r.1 (es ++ es') >>= fun others =>
      pure (others.1, r.2 ++ others.2)) = ((step s e >>= fun r => run step r.1 es >>= fun others =>
        pure (others.1, r.2 ++ others.2)) >>= _)
    cases step s e with
    | error d => rfl
    | ok r =>
      show (run step r.1 (es ++ es') >>= _) = ((run step r.1 es >>= _) >>= _)
      rw [ih]
      cases run step r.1 es with
      | error d => rfl
      | ok q =>
        show ((run step q.1 es').map _ >>= _) = (run step q.1 es').map _
        cases run step q.1 es' with
        | error d => rfl
        | ok q' => exact congrArg (fun l => Except.ok (q'.1, l)) (List.append_assoc _ _ _).symm

/-- The first part succeeds. -/
theorem run_append_of_ok {step : S → E → Except ε (S × List O)} {s s₁ : S} {es : List E}
    {o : List O} (h : run step s es = .ok (s₁, o)) (es' : List E) :
    run step s (es ++ es') = (run step s₁ es').map fun r => (r.1, o ++ r.2) := by
  rw [run_append_bind, h]
  rfl

theorem run_append {step : S → E → Except ε (S × List O)} {s s₁ s₂ : S} {es es' : List E}
    {o o' : List O} (h : run step s es = .ok (s₁, o)) (h' : run step s₁ es' = .ok (s₂, o')) :
    run step s (es ++ es') = .ok (s₂, o ++ o') := by
  rw [run_append_of_ok h, h']
  rfl

/-- What a specification with a history of its own says of the events, one after the other. -/
def trace (after : H → E → H) (spec : H → E → List V) (h : H) : List E → List V
  | [] => []
  | e :: es => spec h e ++ trace after spec (after h e) es

/-- **A machine and a specification.** If an event keeps the relation between state and history,
    and what is seen of it is what the specification says, then this holds of a run. -/
theorem run_trace {step : S → E → Except ε (S × List O)} {after : H → E → H}
    {spec : H → E → List V} {I : S → H → Prop} {f : O → Option V}
    {s : S} {h : H} {es : List E} {r : S × List O} (hrun : run step s es = .ok r) (hI : I s h)
    (hstep : ∀ {s h e r}, I s h → step s e = .ok r →
      I r.1 (after h e) ∧ r.2.filterMap f = spec h e) :
    I r.1 (es.foldl after h) ∧ r.2.filterMap f = trace after spec h es := by
  induction es generalizing s h r with
  | nil =>
    obtain rfl := Except.ok.inj hrun
    exact ⟨hI, rfl⟩
  | cons e es ih =>
    obtain ⟨r₁, r₂, hs, hrest, rfl⟩ := run_cons_ok hrun
    obtain ⟨hkept, hseen⟩ := hstep hI hs
    obtain ⟨hlast, hothers⟩ := ih hrest hkept
    refine ⟨hlast, ?_⟩
    rw [List.filterMap_append, hseen, hothers]
    rfl

/-- A condition on every event, given the history in which it happens. -/
def Throughout (after : H → E → H) (P : H → E → Prop) (h : H) : List E → Prop
  | [] => True
  | e :: es => P h e ∧ Throughout after P (after h e) es

instance decidableThroughout (after : H → E → H) (P : H → E → Prop) [∀ h e, Decidable (P h e)]
    (h : H) : (es : List E) → Decidable (Throughout after P h es)
  | [] => .isTrue trivial
  | e :: es =>
    have := decidableThroughout after P (after h e) es
    inferInstanceAs (Decidable (_ ∧ _))

/-- Conditions that mean the same under a third one. -/
theorem throughout_congr {after : H → E → H} {P Q R : H → E → Prop}
    (hsame : ∀ {h e}, R h e → (P h e ↔ Q h e)) {h : H} {es : List E}
    (hes : Throughout after R h es) : Throughout after P h es ↔ Throughout after Q h es := by
  induction es generalizing h with
  | nil => exact Iff.rfl
  | cons e es ih => exact and_congr (hsame hes.1) (ih hes.2)

/-- What an event keeps under a condition, a run keeps. -/
theorem foldl_keeps {after : H → E → H} {P : H → E → Prop} {I : H → Prop}
    (hkeep : ∀ {h e}, I h → P h e → I (after h e)) {h : H} {es : List E} (hI : I h)
    (hes : Throughout after P h es) : I (es.foldl after h) := by
  induction es generalizing h with
  | nil => exact hI
  | cons e es ih => exact ih (hkeep hI hes.1) hes.2

/-- **When a run succeeds.** If it depends on the history alone whether an event succeeds, then
    a run succeeds exactly if every event does. -/
theorem succeeds_run {step : S → E → Except ε (S × List O)} {after : H → E → H}
    {fits : H → E → Prop} {I : S → H → Prop} {s : S} {h : H} {es : List E} (hI : I s h)
    (hkeep : ∀ {s h e r}, I s h → step s e = .ok r → I r.1 (after h e))
    (hfits : ∀ {s h e}, I s h → (Succeeds (step s e) ↔ fits h e)) :
    Succeeds (run step s es) ↔ Throughout after fits h es := by
  induction es generalizing s h with
  | nil => exact iff_of_true ⟨_, rfl⟩ trivial
  | cons e es ih =>
    constructor
    · rintro ⟨r, hrun⟩
      obtain ⟨r₁, r₂, hs, hrest, -⟩ := run_cons_ok hrun
      exact ⟨(hfits hI).mp ⟨r₁, hs⟩, (ih (hkeep hI hs)).mp ⟨r₂, hrest⟩⟩
    · rintro ⟨hfirst, hothers⟩
      obtain ⟨r₁, hs⟩ := (hfits hI).mpr hfirst
      obtain ⟨r₂, hrest⟩ := (ih (hkeep hI hs)).mpr hothers
      exact ⟨_, bind_eq_ok.mpr ⟨r₁, hs, bind_eq_ok.mpr ⟨r₂, hrest, rfl⟩⟩⟩

end Machine
