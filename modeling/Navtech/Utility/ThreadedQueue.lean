/-
  `Threaded_queue` of `cpp_17/utility/threaded_queue.h`: calls of `enqueue` from any number of
  threads, and the worker thread, interleaved.

  A step is a stretch of code between two points where another thread can come in. `enqueue`
  has two: its tests, made without the mutex, and the `push` with the notification, made under
  it. The worker has the test of its loop, the first stretch under the mutex, the callback,
  and the second stretch under the mutex, which ends in a test of `stop_requested` and possibly
  in the wait; since `stop_requested` is not guarded by the mutex, the test and the wait are
  steps of their own, and the mutex stays with the worker in between.

  An item that has been accepted is, at every moment, handed over, or in the hands of the
  worker, or in the queue, in this order; and a worker that waits, or is about to, has left the
  queue empty, as every `push` since has woken it (`queue_delivers`).
-/
import Mathlib.Data.List.Basic
import Navtech.Lib.Transition

namespace Navtech

open Transition

/-- `max_queue_depth`. -/
def maxQueueDepth : Nat := 10000

/-- Where the worker is in `thread_method` and `do_work`. -/
inductive Worker (T : Type) where
  /-- At the test of the loop. -/
  | looping
  /-- At the first `lock`. -/
  | locking
  /-- With the item it has taken from the queue, and without the mutex. -/
  | holding (item : T)
  /-- At the second `lock`. -/
  | relocking
  /-- At `wait`, with the mutex. -/
  | deciding
  | waiting
  /-- Out of the wait, but without the mutex yet. -/
  | woken
  | finished
deriving DecidableEq, Repr

namespace Worker

variable {T : Type}

/-- The item in the hands of the worker. -/
def held : Worker T → List T
  | holding item => [item]
  | _ => []

/-- It has found the queue empty and has not been notified since. -/
def idle : Worker T → Bool
  | deciding | waiting => true
  | _ => false

/-- Between two steps it keeps the mutex. -/
def ownsMutex : Worker T → Bool
  | deciding => true
  | _ => false

/-- `condition.notify_all()`, and any other end of the wait. -/
def wake : Worker T → Worker T
  | waiting => woken
  | worker => worker

theorem wake_held (worker : Worker T) : worker.wake.held = worker.held := by
  cases worker <;> rfl

/-- After a notification only a worker that has the mutex can be idle. -/
theorem wake_idle {worker : Worker T} (h : worker.ownsMutex ≠ true) :
    worker.wake.idle = false := by
  cases worker <;> first | rfl | exact absurd rfl h

theorem eq_waiting {worker : Worker T} (h : (worker.idle && !worker.ownsMutex) = true) :
    worker = .waiting := by
  cases worker <;> first | rfl | exact nomatch h

end Worker

/-- The members, the calls in flight, and what has been accepted and handed out. -/
structure ThreadedQueue (T : Type) where
  stopping : Bool
  stopRequested : Bool
  joinable : Bool
  /-- `dequeue_callback` is set. -/
  dequeueCallback : Bool
  queue : List T
  worker : Worker T
  /-- Calls of `enqueue`, by item and `notify`, which have passed the tests and not pushed. -/
  calls : List (T × Bool)
  /-- The items pushed so far, in push order. -/
  accepted : List T
  /-- The items passed to `dequeue_callback` so far, in the order of the calls. -/
  handed : List T
deriving DecidableEq, Repr

namespace ThreadedQueue

variable {T : Type}

/-- The worker's next step. -/
def doWork (s : ThreadedQueue T) : Option (ThreadedQueue T) :=
  match s.worker with
  | .looping => some { s with worker := if s.stopRequested then .finished else .locking }
  | .locking =>
    match s.queue with
    | [] => some { s with worker := .relocking }
    | item :: queue => some { s with queue := queue, worker := .holding item }
  | .holding item =>
    some { s with
      handed := if s.dequeueCallback then s.handed ++ [item] else s.handed, worker := .relocking }
  | .relocking =>
    some { s with worker := if s.queue.isEmpty && !s.stopRequested then .deciding else .looping }
  | .deciding => some { s with worker := .waiting }
  | .waiting => none
  | .woken => some { s with worker := .looping }
  | .finished => none

/-- A caller takes one of its two steps, or the worker moves. -/
inductive Action (T : Type) where
  /-- A call of `enqueue` makes its tests. -/
  | enqueue (item : T) (notify : Bool)
  /-- The `i`-th of the calls that have passed them goes on. -/
  | push (i : Nat)
  | work
  /-- The worker's wait ends for no reason. -/
  | wake
deriving DecidableEq, Repr

/-- One step of a caller or of the worker, where it can be taken. -/
def step (s : ThreadedQueue T) : Action T → Option (ThreadedQueue T)
  | .enqueue item notify =>
    if s.stopping || !s.dequeueCallback || !s.joinable || maxQueueDepth < s.queue.length then some s
    else some { s with calls := s.calls ++ [(item, notify)] }
  | .push i =>
    if s.worker.ownsMutex then none
    else
      match s.calls[i]? with
      | none => none
      | some (item, notify) =>
        some { s with
          calls := s.calls.eraseIdx i
          queue := s.queue ++ [item]
          accepted := s.accepted ++ [item]
          worker := if notify then s.worker.wake else s.worker }
  | .work => s.doWork
  | .wake => if s.worker.idle && !s.worker.ownsMutex then some { s with worker := .woken } else none

/-- After `start()`, with a callback set. -/
def started : ThreadedQueue T where
  stopping := false
  stopRequested := false
  joinable := true
  dequeueCallback := true
  queue := []
  worker := .looping
  calls := []
  accepted := []
  handed := []

/-- A call of `enqueue` leaves `notify` at its default. -/
def Notifies (_ : ThreadedQueue T) : Action T → Prop
  | .enqueue _ notify => notify = true
  | _ => True

/-- What the queue promises in a state. -/
structure Delivers (s : ThreadedQueue T) : Prop where
  /-- No item is lost or passed twice: those that have been handed over, the one the worker
      holds and those that wait are the accepted ones, in push order. -/
  kept : s.accepted = s.handed ++ s.worker.held ++ s.queue
  handed_prefix : s.handed <+: s.accepted
  /-- The worker does not sleep while there is an item. -/
  awake : s.worker = .waiting → s.queue = []

/-! ## The steps -/

variable {s s' : ThreadedQueue T}

/-- What a step does, with the tests it has passed. `refused` is a call of `enqueue` that
    returns at its tests. -/
inductive Moves (s : ThreadedQueue T) : Action T → ThreadedQueue T → Prop where
  | refused {a : Action T} : Moves s a s
  | called {item : T} {notify : Bool} :
      Moves s (.enqueue item notify) { s with calls := s.calls ++ [(item, notify)] }
  | pushed {i : Nat} {item : T} {notify : Bool} : s.worker.ownsMutex ≠ true →
      s.calls[i]? = some (item, notify) →
      Moves s (.push i) { s with
        calls := s.calls.eraseIdx i
        queue := s.queue ++ [item]
        accepted := s.accepted ++ [item]
        worker := if notify then s.worker.wake else s.worker }
  | worked {s' : ThreadedQueue T} : s.doWork = some s' → Moves s .work s'
  | woken : s.worker = .waiting → Moves s .wake { s with worker := .woken }

theorem step_moves {a : Action T} (hs : s.step a = some s') : Moves s a s' := by
  cases a with
  | enqueue item notify =>
    simp only [step] at hs
    split at hs <;> obtain rfl := Option.some.inj hs
    · exact .refused
    · exact .called
  | push i =>
    simp only [step] at hs
    split at hs
    · exact nomatch hs
    · rename_i hfree
      split at hs
      · exact nomatch hs
      · rename_i item notify hcall
        obtain rfl := Option.some.inj hs
        exact .pushed hfree hcall
  | work => exact .worked hs
  | wake =>
    simp only [step] at hs
    split at hs
    · rename_i hw
      obtain rfl := Option.some.inj hs
      exact .woken (Worker.eq_waiting hw)
    · exact nomatch hs

/-! ## The invariant -/

/-- Nothing is lost on the way, and a worker that waits has nothing to do. -/
structure Inv (s : ThreadedQueue T) : Prop where
  callback : s.dequeueCallback = true
  notifying : ∀ call ∈ s.calls, call.2 = true
  kept : s.accepted = s.handed ++ s.worker.held ++ s.queue
  idle : s.worker.idle = true → s.queue = []

theorem Inv.delivers (h : Inv s) : Delivers s where
  kept := h.kept
  handed_prefix := by
    rw [h.kept, List.append_assoc]
    exact List.prefix_append _ _
  awake hw := h.idle (by rw [hw]; rfl)

theorem inv_started : Inv (started : ThreadedQueue T) where
  callback := rfl
  notifying := fun _ h => nomatch h
  kept := rfl
  idle := fun _ => rfl

/-- The worker moves on, with nothing in its hands before or after. -/
theorem Inv.moved (h : Inv s) {worker : Worker T} (hheld : worker.held = s.worker.held)
    (hidle : worker.idle = true → s.queue = []) : Inv { s with worker := worker } where
  callback := h.callback
  notifying := h.notifying
  kept := by
    show s.accepted = s.handed ++ worker.held ++ s.queue
    rw [hheld]
    exact h.kept
  idle := hidle

theorem inv_doWork (h : Inv s) (hs : s.doWork = some s') : Inv s' := by
  have hkept := h.kept
  unfold doWork at hs
  split at hs
  case h_1 hw =>
    -- the test of the loop
    obtain rfl := Option.some.inj hs
    refine h.moved ?_ ?_ <;> split <;> simp [hw, Worker.held, Worker.idle]
  case h_2 hw =>
    split at hs
    case h_1 hq =>
      obtain rfl := Option.some.inj hs
      exact h.moved (by rw [hw]; rfl) fun hi => nomatch hi
    case h_2 item queue hq =>
      -- the head of the queue goes into the worker's hands
      obtain rfl := Option.some.inj hs
      refine ⟨h.callback, h.notifying, ?_, fun hi => nomatch hi⟩
      rw [hkept, hw, hq]
      simp [Worker.held]
  case h_3 item hw =>
    -- and from there to the callback
    obtain rfl := Option.some.inj hs
    refine ⟨h.callback, h.notifying, ?_, fun hi => nomatch hi⟩
    show s.accepted = (if s.dequeueCallback then s.handed ++ [item] else s.handed) ++ [] ++ s.queue
    rw [if_pos h.callback, hkept, hw, List.append_nil]
    rfl
  case h_4 hw =>
    obtain rfl := Option.some.inj hs
    refine h.moved ?_ ?_
    · split <;> rw [hw] <;> rfl
    · split
      · rename_i hcond
        intro _
        exact List.isEmpty_iff.mp (Bool.and_eq_true_iff.mp hcond).1
      · exact fun hi => nomatch hi
  case h_5 hw =>
    obtain rfl := Option.some.inj hs
    exact h.moved (by rw [hw]; rfl) fun _ => h.idle (by rw [hw]; rfl)
  case h_6 => exact nomatch hs
  case h_7 hw =>
    obtain rfl := Option.some.inj hs
    exact h.moved (by rw [hw]; rfl) fun hi => nomatch hi
  case h_8 => exact nomatch hs

/-- A call whose tests have been passed pushes its item and wakes the worker. -/
theorem inv_pushed (h : Inv s) {i : Nat} {item : T} {notify : Bool}
    (hfree : s.worker.ownsMutex ≠ true) (hcall : s.calls[i]? = some (item, notify)) :
    Inv { s with
      calls := s.calls.eraseIdx i
      queue := s.queue ++ [item]
      accepted := s.accepted ++ [item]
      worker := if notify then s.worker.wake else s.worker } := by
  have hnotify : notify = true := h.notifying _ (List.mem_of_getElem? hcall)
  subst hnotify
  refine ⟨h.callback, ?_, ?_, ?_⟩
  · intro call hmem
    exact h.notifying call (List.mem_of_mem_eraseIdx hmem)
  · show s.accepted ++ [item] = s.handed ++ s.worker.wake.held ++ (s.queue ++ [item])
    rw [Worker.wake_held, h.kept, List.append_assoc]
  · intro hidle
    rw [if_pos rfl, Worker.wake_idle hfree] at hidle
    exact nomatch hidle

theorem inv_step (h : Inv s) {a : Action T} (hok : Notifies s a) (hs : s.step a = some s') :
    Inv s' := by
  cases step_moves hs with
  | refused => exact h
  | called =>
    refine ⟨h.callback, ?_, h.kept, h.idle⟩
    exact List.forall_mem_append.mpr ⟨h.notifying, List.forall_mem_singleton.mpr hok⟩
  | pushed hfree hcall => exact inv_pushed h hfree hcall
  | worked hs => exact inv_doWork h hs
  | woken hw => exact h.moved (by rw [hw]; rfl) fun hi => nomatch hi

/-- **Exactly once, in order, and no sleep.** In every state that the calls of `enqueue` and the
    worker can reach, the items passed to the callback are the first of the accepted ones, none
    is lost or passed twice, and the worker does not wait for a notification with an item in the
    queue. -/
theorem queue_delivers (h : Reach step Notifies started s) : Delivers s :=
  (h.invariant inv_started fun h hok hs => inv_step h hok hs).delivers

instance : ∀ (s : ThreadedQueue T) (a : Action T), Decidable (Notifies s a)
  | _, .enqueue _ notify => inferInstanceAs (Decidable (notify = true))
  | _, .push _ | _, .work | _, .wake => .isTrue trivial

/-- Two calls come in while the worker is on its way into the wait: one is held back by the
    mutex and ends the wait, the other comes before the worker has the mutex again. -/
theorem queue_delivers_two :
    ∃ s : ThreadedQueue Nat, (s.worker = .holding 1 ∧ s.queue = [2]) ∧ Delivers s := by
  obtain ⟨s, hreach, hs⟩ := exists_reach step Notifies (started : ThreadedQueue Nat)
    [.work, .work, .work, .enqueue 1 true, .work, .push 0, .enqueue 2 true, .push 0, .work, .work,
      .work] (fun s => s.worker = .holding 1 ∧ s.queue = [2]) (by decide)
  exact ⟨s, hs, queue_delivers hreach⟩

end ThreadedQueue

end Navtech
