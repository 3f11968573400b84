/-
  `Threaded_class::start` and `stop` with the overrides of `Threaded_queue`, run by one owner of
  the queue beside the callers of `enqueue` and the worker.

  `stop` raises `stop_requested`, empties the queue, notifies and joins the worker, all without
  the mutex. A worker that has made its test of `stop_requested` and not yet waited keeps the
  mutex, but that does not hold up the notification, which it misses; then it waits, and the
  join does too. In the runs in which no notification of `stop` falls there, a worker that is
  being joined does not wait (`Inv.joinedAwake`), and its own steps lead it to its end
  (`joined_worker_ends`).
-/
import Mathlib.Logic.Relation
import Navtech.Utility.ThreadedQueue

namespace Navtech

open Transition

namespace Worker

variable {T : Type} {worker : Worker T}

theorem wake_idle_of_idle (h : worker.idle = false) : worker.wake.idle = false := by
  cases worker <;> first | rfl | exact nomatch h

/-- How many steps a worker that has been asked to stop is from its end, if it is not idle. -/
def toFinish : Worker T → Nat
  | finished | deciding | waiting => 0
  | looping => 1
  | relocking | woken => 2
  | holding _ => 3
  | locking => 4

end Worker

namespace ThreadedQueue

variable {T : Type}

/-- The next statement of `start()` or `stop()`; `idle` between the calls. -/
inductive OwnerPc (T : Type) where
  | idle
  /-- `stop_requested = true` -/
  | request (finishWork : Bool)
  /-- `stopping = true` in `pre_stop` -/
  | raise (finishWork : Bool)
  /-- `dequeue()`: the head of the queue is taken, if there is one. -/
  | dequeue
  /-- The callback in `dequeue()`, and the test of the loop around it. -/
  | call (item : T)
  /-- `std::swap(queue, empty)` -/
  | swap
  /-- `condition.notify_all()` -/
  | notify
  /-- `thread.join()` -/
  | join
  /-- `stop_requested = false` in `start` -/
  | lower
  /-- The new thread. -/
  | spawn
  /-- `stopping = false` in `post_stop` -/
  | postStop
deriving DecidableEq, Repr

/-- In `stop`, behind `stop_requested = true`. -/
def OwnerPc.requested : OwnerPc T → Bool
  | raise _ | dequeue | call _ | swap | notify | join => true
  | _ => false

/-- The queue and its owner. -/
structure Owned (T : Type) where
  queue : ThreadedQueue T
  owner : OwnerPc T
deriving DecidableEq, Repr

namespace Owned

/-- A statement of `start()` or `stop()`. -/
def ownerStep (s : Owned T) : Option (Owned T) :=
  match s.owner with
  | .idle => none
  | .request finishWork =>
    some { queue := { s.queue with stopRequested := true }, owner := .raise finishWork }
  | .raise finishWork =>
    some {
      queue := { s.queue with stopping := true }
      owner := if finishWork then .dequeue else .swap }
  | .dequeue =>
    match s.queue.queue with
    | [] => some { s with owner := .swap }
    | item :: queue => some { queue := { s.queue with queue := queue }, owner := .call item }
  | .call item =>
    some {
      queue := { s.queue with
        handed := if s.queue.dequeueCallback then s.queue.handed ++ [item] else s.queue.handed }
      owner := if s.queue.queue.isEmpty then .swap else .dequeue }
  | .swap => some { queue := { s.queue with queue := [] }, owner := .notify }
  | .notify => some { queue := { s.queue with worker := s.queue.worker.wake }, owner := .join }
  | .join =>
    match s.queue.worker with
    | .finished => some { queue := { s.queue with joinable := false }, owner := .idle }
    | _ => none
  | .lower => some { queue := { s.queue with stopRequested := false }, owner := .spawn }
  | .spawn =>
    some { queue := { s.queue with worker := .looping, joinable := true }, owner := .postStop }
  | .postStop => some { queue := { s.queue with stopping := false }, owner := .idle }

/-- A step of the queue, or of its owner. -/
inductive Action (T : Type) where
  /-- A caller of `enqueue` or the worker takes a step. -/
  | queue (a : ThreadedQueue.Action T)
  /-- The owner calls `stop()`. -/
  | stop (finishWork : Bool)
  /-- The owner calls `start()`. -/
  | start
  /-- The call in progress executes a statement. -/
  | owner
deriving DecidableEq, Repr

/-- The owner makes one call at a time. -/
def step (s : Owned T) : Action T → Option (Owned T)
  | .queue a => (s.queue.step a).map fun queue => { s with queue := queue }
  | .stop finishWork =>
    match s.owner with
    | .idle =>
      some (if !s.queue.joinable || s.queue.stopRequested then s
        else { s with owner := .request finishWork })
    | _ => none
  | .start =>
    match s.owner with
    | .idle => some (if s.queue.joinable then s else { s with owner := .lower })
    | _ => none
  | .owner => s.ownerStep

/-- After a first `start()`, with a callback set. -/
def started : Owned T where
  queue := .started
  owner := .idle

/-- `stop()` waits in its join, and the worker is not blocked in a wait. -/
def JoinedAwake (s : Owned T) : Prop := s.owner = .join → s.queue.worker ≠ .waiting

/-- `stop()` does not notify while the worker is between its test and its wait, with the mutex. -/
def NotifiesOutsideWindow (s : Owned T) (a : Action T) : Prop :=
  a = .owner → s.owner = .notify → s.queue.worker.ownsMutex = false

end Owned

/-! ## The worker that has been asked to stop -/

variable {s s' : ThreadedQueue T}

theorem stopRequested_doWork (hs : s.doWork = some s') :
    s'.stopRequested = s.stopRequested := by
  unfold doWork at hs
  split at hs
  case h_2 =>
    split at hs <;> obtain rfl := Option.some.inj hs <;> rfl
  case h_6 => exact nomatch hs
  case h_8 => exact nomatch hs
  all_goals
    obtain rfl := Option.some.inj hs
    rfl

/-- It does not go into the wait, and comes closer to its end. -/
theorem doWork_requested (hreq : s.stopRequested = true) (hidle : s.worker.idle = false)
    (hs : s.doWork = some s') :
    s'.worker.idle = false ∧ s'.worker.toFinish < s.worker.toFinish := by
  unfold doWork at hs
  split at hs
  case h_1 hw =>
    obtain rfl := Option.some.inj hs
    simp [hw, hreq, Worker.idle, Worker.toFinish]
  case h_2 hw =>
    split at hs <;> obtain rfl := Option.some.inj hs <;> simp [hw, Worker.idle, Worker.toFinish]
  case h_3 item hw =>
    obtain rfl := Option.some.inj hs
    simp [hw, Worker.idle, Worker.toFinish]
  case h_4 hw =>
    -- the test of `stop_requested` leads past the wait
    obtain rfl := Option.some.inj hs
    simp [hw, hreq, Worker.idle, Worker.toFinish]
  case h_5 hw =>
    rw [hw] at hidle
    cases hidle
  case h_6 => cases hs
  case h_7 hw =>
    obtain rfl := Option.some.inj hs
    simp [hw, Worker.idle, Worker.toFinish]
  case h_8 => cases hs

/-- It can always go on. -/
theorem doWork_enabled (hidle : s.worker.idle = false) (hw : s.worker ≠ .finished) :
    ∃ s', s.doWork = some s' := by
  unfold doWork
  split
  case h_2 => split <;> exact ⟨_, rfl⟩
  case h_6 hwaiting =>
    rw [hwaiting] at hidle
    exact nomatch hidle
  case h_8 hfinished => exact absurd hfinished hw
  all_goals exact ⟨_, rfl⟩

/-- Its own steps lead to its end. -/
theorem worker_ends (n : Nat) : ∀ {s : ThreadedQueue T}, s.stopRequested = true →
    s.worker.idle = false → s.worker.toFinish < n →
    ∃ s', Relation.ReflTransGen (fun s s' => s.doWork = some s') s s' ∧
      s'.worker = .finished := by
  induction n with
  | zero => exact fun _ _ h => nomatch h
  | succ n ih =>
    intro s hreq hidle hn
    by_cases hw : s.worker = .finished
    · exact ⟨s, .refl, hw⟩
    · obtain ⟨t, ht⟩ := doWork_enabled hidle hw
      obtain ⟨htidle, hlt⟩ := doWork_requested hreq hidle ht
      obtain ⟨s', hreach, hend⟩ := ih ((stopRequested_doWork ht).trans hreq) htidle (by omega)
      exact ⟨s', hreach.head ht, hend⟩

theorem stopRequested_step {a : Action T} (hs : s.step a = some s') :
    s'.stopRequested = s.stopRequested := by
  cases step_moves hs with
  | worked hs => exact stopRequested_doWork hs
  | refused | called | pushed | woken => rfl

theorem idle_step {a : Action T} (hreq : s.stopRequested = true)
    (hidle : s.worker.idle = false) (hs : s.step a = some s') : s'.worker.idle = false := by
  cases step_moves hs with
  | refused | called => exact hidle
  | pushed =>
    dsimp only
    split
    · exact Worker.wake_idle_of_idle hidle
    · exact hidle
  | worked hs => exact (doWork_requested hreq hidle hs).1
  | woken => rfl

namespace Owned

/-! ## The invariant -/

/-- From the request on the queue is told to stop, and the join finds the worker awake. -/
structure Inv (s : Owned T) : Prop where
  requested : s.owner.requested = true → s.queue.stopRequested = true
  awake : s.owner = .join → s.queue.worker.idle = false

theorem inv_started : Inv (started : Owned T) where
  requested := fun h => nomatch h
  awake := fun h => nomatch h

variable {s s' : Owned T}

theorem Inv.joinedAwake (h : Inv s) : JoinedAwake s := by
  intro hjoin hwaiting
  have hidle := h.awake hjoin
  rw [hwaiting] at hidle
  exact nomatch hidle

theorem inv_queueStep (h : Inv s) {a : ThreadedQueue.Action T} {queue : ThreadedQueue T}
    (hs : s.queue.step a = some queue) : Inv { s with queue := queue } where
  requested hreq := (stopRequested_step hs).trans (h.requested hreq)
  awake hjoin := idle_step (h.requested (by rw [hjoin]; rfl)) (h.awake hjoin) hs

/-- Outside of `stop()`, and before it has raised `stop_requested`, there is nothing to keep. -/
theorem inv_of_not_requested (h : s.owner.requested = false) : Inv s where
  requested hreq := absurd (h.symm.trans hreq) Bool.false_ne_true
  awake hjoin := by
    rw [hjoin] at h
    exact nomatch h

/-- A statement between `stop_requested = true` and the notification. -/
theorem Inv.stopping (h : Inv s) (hreq : s.owner.requested = true)
    (hqueue : s'.queue.stopRequested = s.queue.stopRequested) (howner : s'.owner ≠ .join) :
    Inv s' where
  requested _ := hqueue.trans (h.requested hreq)
  awake hjoin := absurd hjoin howner

theorem inv_ownerStep (h : Inv s) (hok : NotifiesOutsideWindow s .owner)
    (hs : s.ownerStep = some s') : Inv s' := by
  unfold ownerStep at hs
  split at hs
  case h_1 => exact nomatch hs
  case h_2 =>
    obtain rfl := Option.some.inj hs
    exact ⟨fun _ => rfl, nofun⟩
  case h_3 how =>
    obtain rfl := Option.some.inj hs
    refine h.stopping (by rw [how]; rfl) rfl ?_
    dsimp only
    split <;> nofun
  case h_4 how =>
    split at hs <;> obtain rfl := Option.some.inj hs
    · exact h.stopping (by rw [how]; rfl) rfl nofun
    · exact h.stopping (by rw [how]; rfl) rfl nofun
  case h_5 how =>
    obtain rfl := Option.some.inj hs
    refine h.stopping (by rw [how]; rfl) rfl ?_
    dsimp only
    split <;> nofun
  case h_6 how =>
    obtain rfl := Option.some.inj hs
    exact h.stopping (by rw [how]; rfl) rfl nofun
  case h_7 how =>
    -- the notification is not missed, as the worker does not have the mutex
    obtain rfl := Option.some.inj hs
    have hfree : s.queue.worker.ownsMutex ≠ true := by simp [hok rfl how]
    exact ⟨fun _ => h.requested (by rw [how]; rfl), fun _ => Worker.wake_idle hfree⟩
  case h_8 =>
    split at hs
    · obtain rfl := Option.some.inj hs
      exact inv_of_not_requested rfl
    · exact nomatch hs
  all_goals
    obtain rfl := Option.some.inj hs
    exact inv_of_not_requested rfl

theorem inv_step (h : Inv s) {a : Action T} (hok : NotifiesOutsideWindow s a)
    (hs : s.step a = some s') : Inv s' := by
  cases a with
  | queue a =>
    obtain ⟨queue, hqueue, rfl⟩ := Option.map_eq_some_iff.mp hs
    exact inv_queueStep h hqueue
  | stop finishWork =>
    simp only [step] at hs
    split at hs
    · obtain rfl := Option.some.inj hs
      split
      · exact h
      · exact inv_of_not_requested rfl
    · exact nomatch hs
  | start =>
    simp only [step] at hs
    split at hs
    · obtain rfl := Option.some.inj hs
      split
      · exact h
      · exact inv_of_not_requested rfl
    · exact nomatch hs
  | owner => exact inv_ownerStep h hok hs

theorem reach_inv (h : Reach step NotifiesOutsideWindow started s) : Inv s :=
  h.invariant inv_started fun h hok hs => inv_step h hok hs

/-- While `stop()` joins the worker, the worker's own steps lead to its end. -/
theorem joined_worker_ends (h : Reach step NotifiesOutsideWindow started s)
    (hjoin : s.owner = .join) :
    ∃ queue, Relation.ReflTransGen (fun q q' : ThreadedQueue T => q.doWork = some q') s.queue
      queue ∧ queue.worker = .finished :=
  worker_ends _ ((reach_inv h).requested (by rw [hjoin]; rfl)) ((reach_inv h).awake hjoin)
    (Nat.lt_succ_self _)

end Owned

end ThreadedQueue

end Navtech
