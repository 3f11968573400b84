/-
  Programs that read and write a state, and may raise an exception, which leaves the state as it
  was when it was raised.

  What a program does from a state is one equation, of its outcome and of the state behind it.
  The equation of a sequence is that of its first part and that of the rest
  (`run_bind_of_ok`, `run_bind_of_error`), and a handler with nothing to do makes of any outcome
  one that is not an exception (`run_caught`). A part of the state that no step changes is kept by
  the whole (`Keeps.bind`), whatever is raised on the way.
-/
import Mathlib.Init

namespace ExceptState

variable {σ τ ε α β : Type}

section Run

variable {s : ExceptT ε (StateM σ) α} {g g' : σ}

theorem run_bind_of_ok {f : α → ExceptT ε (StateM σ) β} {a : α} (h : s.run g = (.ok a, g')) :
    (s >>= f).run g = (f a).run g' := by
  change ExceptT.bindCont f (s.run g).1 (s.run g).2 = _
  rw [h]
  rfl

theorem run_bind_of_error {f : α → ExceptT ε (StateM σ) β} {e : ε}
    (h : s.run g = (.error e, g')) : (s >>= f).run g = (.error e, g') := by
  change ExceptT.bindCont f (s.run g).1 (s.run g).2 = _
  rw [h]
  rfl

theorem run_bind_get {f : σ → ExceptT ε (StateM σ) β} : (get >>= f).run g = (f g).run g := rfl

theorem run_bind_modify {f : σ → σ} {t : Unit → ExceptT ε (StateM σ) β} :
    (modify f >>= t).run g = (t ()).run (f g) := rfl

/-- A value computed beforehand. -/
theorem run_bind_liftM {x : Except ε α} {a : α} {f : α → ExceptT ε (StateM σ) β}
    (h : x = .ok a) : (liftM x >>= f).run g = (f a).run g := by
  subst h
  rfl

theorem run_bind_liftM_error {x : Except ε α} {e : ε} {f : α → ExceptT ε (StateM σ) β}
    (h : x = .error e) : (liftM x >>= f).run g = (.error e, g) := by
  subst h
  rfl

/-- A handler with nothing to do. -/
theorem run_caught (s : ExceptT ε (StateM σ) Unit) (g : σ) :
    (tryCatch s fun _ => pure ()).run g = (.ok (), (s.run g).2) := by
  rcases h : s.run g with ⟨_ | _, g'⟩
  all_goals
    have h' : s g = _ := h
    simp only [tryCatch, tryCatchThe, MonadExceptOf.tryCatch, ExceptT.tryCatch, ExceptT.run,
      ExceptT.mk, bind, StateT.bind, h']
    rfl

end Run

/-- A program on a part of the state. -/
def zoom (get : σ → τ) (set : σ → τ → σ) (s : ExceptT ε (StateM τ) α) :
    ExceptT ε (StateM σ) α := fun g =>
  let outcome := s.run (get g)
  (outcome.1, set g outcome.2)

theorem run_zoom {get : σ → τ} {set : σ → τ → σ} {s : ExceptT ε (StateM τ) α} {g : σ}
    {x : Except ε α} {t : τ} (h : s.run (get g) = (x, t)) :
    (zoom get set s).run g = (x, set g t) := by
  change ((s.run (get g)).1, set g (s.run (get g)).2) = _
  rw [h]

/-- The program leaves the field as it is, whether it raises or not. -/
def Keeps (field : σ → τ) (s : ExceptT ε (StateM σ) α) : Prop :=
  ∀ g, field (s.run g).2 = field g

variable {field : σ → τ}

theorem Keeps.bind {s : ExceptT ε (StateM σ) α} {f : α → ExceptT ε (StateM σ) β}
    (hs : Keeps field s) (hf : ∀ a, Keeps field (f a)) : Keeps field (s >>= f) := by
  intro g
  rcases h : s.run g with ⟨e | a, g'⟩
  · rw [run_bind_of_error h, ← hs g, h]
  · rw [run_bind_of_ok h, hf a g', ← hs g, h]

theorem keeps_get : Keeps field (get : ExceptT ε (StateM σ) σ) := fun _ => rfl

theorem keeps_pure (a : α) : Keeps field (pure a : ExceptT ε (StateM σ) α) := fun _ => rfl

theorem keeps_throw (e : ε) : Keeps field (throw e : ExceptT ε (StateM σ) α) := fun _ => rfl

theorem keeps_modify {f : σ → σ} (hf : ∀ g, field (f g) = field g) :
    Keeps field (modify f : ExceptT ε (StateM σ) Unit) := hf

/-- What an outcome computed beforehand adds. -/
theorem keeps_liftM (x : Except ε α) : Keeps field (liftM x : ExceptT ε (StateM σ) α) :=
  fun _ => rfl

end ExceptState
