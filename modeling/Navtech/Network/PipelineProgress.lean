/-
  The threads of a `Pipeline` can always come to rest, and then no frame is missing.

  Between two trips of the read thread the queue runs empty: every push and every step of the
  worker lowers a measure (`load`), until no call is in flight and the worker waits
  (`drained`). So from any state that is reached with room in the queue, the trips that hand over
  all frames can be made one after the other, each with room (`trips`), and after the last one all
  threads are at rest. At that point the client has handled all frames of the stream
  (`pipeline_finishes`), if no frame puts a handler at fault.
-/
import Navtech.Network.Pipeline

namespace Navtech

open CheckedView Transition
open Navtech.Network (Bytes Deframes Frame ReadThread Schedule)

namespace Pipeline

open RadarClient (Event)

/-! ## The queue runs empty -/

section Load

variable {T : Type} {q q' : ThreadedQueue T}

/-- How far the worker is from its wait. Where items are left, it is on its way to the next one. -/
def workerLoad (empty : Bool) : Worker T → Nat
  | .holding _ => if empty then 6 else 10
  | .relocking => if empty then 5 else 9
  | .woken => 9
  | .looping => 8
  | .locking => 7
  | .deciding => 4
  | .waiting | .finished => 0

/-- The work that is left before the queue is at rest. -/
def load (q : ThreadedQueue T) : Nat :=
  30 * q.calls.length + 12 * q.queue.length + workerLoad q.queue.isEmpty q.worker

theorem workerLoad_le (empty : Bool) (worker : Worker T) : workerLoad empty worker ≤ 10 := by
  cases worker <;> cases empty <;> simp [workerLoad]

/-- The worker has been started and not been asked to stop. -/
structure Started (q : ThreadedQueue T) : Prop where
  stopRequested : q.stopRequested = false
  worker : q.worker ≠ .finished

/-- The worker's steps lead to its wait. -/
theorem doWork_load (h : Started q) (hq : q.doWork = some q') : Started q' ∧ load q' < load q := by
  have hstop := h.stopRequested
  unfold load
  unfold ThreadedQueue.doWork at hq
  split at hq
  case h_1 hw =>
    obtain rfl := Option.some.inj hq
    refine ⟨⟨hstop, by simp [hstop]⟩, ?_⟩
    simp [hw, hstop, workerLoad]
  case h_2 hw =>
    split at hq
    case h_1 hnil =>
      obtain rfl := Option.some.inj hq
      refine ⟨⟨hstop, by simp⟩, ?_⟩
      simp [hw, hnil, workerLoad]
    case h_2 item queue hcons =>
      obtain rfl := Option.some.inj hq
      refine ⟨⟨hstop, by simp⟩, ?_⟩
      rw [hw, hcons]
      simp only [workerLoad, List.length_cons]
      split <;> omega
  case h_3 item hw =>
    obtain rfl := Option.some.inj hq
    refine ⟨⟨hstop, by simp⟩, ?_⟩
    rw [hw]
    simp only [workerLoad]
    split <;> omega
  case h_4 hw =>
    -- on the way to its wait, or to the next item
    obtain rfl := Option.some.inj hq
    refine ⟨⟨hstop, by split <;> simp⟩, ?_⟩
    rw [hw, hstop]
    cases q.queue.isEmpty <;> simp [workerLoad]
  case h_5 hw =>
    obtain rfl := Option.some.inj hq
    refine ⟨⟨hstop, by simp⟩, ?_⟩
    simp [hw, workerLoad]
  case h_6 => cases hq
  case h_7 hw =>
    obtain rfl := Option.some.inj hq
    refine ⟨⟨hstop, by simp⟩, ?_⟩
    simp [hw, workerLoad]
  case h_8 => cases hq

/-- A worker that does not wait takes a step. -/
theorem doWork_goes_on (h : Started q) (hw : q.worker ≠ .waiting) : ∃ q', q.doWork = some q' := by
  unfold ThreadedQueue.doWork
  split
  case h_2 => split <;> exact ⟨_, rfl⟩
  case h_6 heq => exact absurd heq hw
  case h_8 heq => exact absurd heq h.worker
  all_goals exact ⟨_, rfl⟩

theorem wake_ne_finished {worker : Worker T} (h : worker ≠ .finished) :
    worker.wake ≠ .finished := by
  cases worker with
  | waiting => simp [Worker.wake]
  | _ => exact h

/-- A call in flight is pushed, unless the worker is about to wait with the mutex. -/
theorem push_goes_on (hcalls : q.calls ≠ []) (hfree : q.worker.ownsMutex ≠ true) :
    ∃ q', q.step (.push 0) = some q' ∧ load q' < load q := by
  obtain ⟨call, calls, hc⟩ := List.exists_cons_of_ne_nil hcalls
  refine ⟨{ q with
    calls := q.calls.eraseIdx 0
    queue := q.queue ++ [call.1]
    accepted := q.accepted ++ [call.1]
    worker := if call.2 then q.worker.wake else q.worker }, ?_, ?_⟩
  · simp only [ThreadedQueue.step]
    rw [if_neg hfree, hc]
    rfl
  · have hle := workerLoad_le (q.queue ++ [call.1]).isEmpty
      (if call.2 then q.worker.wake else q.worker)
    unfold load
    rw [hc]
    simp only [List.eraseIdx_cons_zero, List.length_cons, List.length_append, List.length_nil]
    omega

theorem step_started (h : Started q) {a : ThreadedQueue.Action T} (hq : q.step a = some q') :
    Started q' := by
  cases ThreadedQueue.step_moves hq with
  | refused => exact h
  | called => exact ⟨h.stopRequested, h.worker⟩
  | @pushed i item notify _ _ =>
    refine ⟨h.stopRequested, ?_⟩
    show (if notify = true then q.worker.wake else q.worker) ≠ .finished
    split
    · exact wake_ne_finished h.worker
    · exact h.worker
  | worked hwork => exact (doWork_load h hwork).1
  | woken _ => exact ⟨h.stopRequested, by simp⟩

end Load

/-! ## The threads come to rest -/

section Rest

variable {x : Externals} {σ : Schedule} {stream : Bytes} {c : RadarClient} {fs : List Frame}
  {t : Bytes} {s s' : Pipeline x}

/-- No frame puts a handler at fault, whatever the client has been through. -/
def Harmless (x : Externals) (fs : List Frame) : Prop :=
  ∀ (c : RadarClient) (f : Frame), f ∈ fs →
    ∃ r : RadarClient × List (Output x), c.handleData f.bytes = .ok r

/-- No call is in flight and the worker waits. -/
def Rests (s : Pipeline x) : Prop := s.queue.calls = [] ∧ s.queue.worker = .waiting

theorem started_step {a : Action} (h : Started s.queue) (hs : s.step σ a = some s') :
    Started s'.queue := by
  cases step_moves hs with
  | idle _ => exact h
  | enqueued _ hqueue => exact step_started h hqueue
  | pushed hqueue => exact step_started h hqueue
  | worked _ hqueue => exact (doWork_load h hqueue).1
  | handled _ hqueue _ => exact (doWork_load h hqueue).1
  | woken hqueue => exact step_started h hqueue
  | called _ _ => exact h

theorem reach_started (h : Reach (step σ) Room (start stream c) s) : Started s.queue :=
  h.invariant (I := fun s => Started s.queue) ⟨rfl, fun h => by cases h⟩
    fun h _ hs => started_step h hs

/-- The read thread has not moved and the user has made no call. -/
structure Drains (σ : Schedule) (stream : Bytes) (c : RadarClient) (s₀ s : Pipeline x) : Prop where
  reach : Reach (step σ) Room (start stream c) s
  reader : s.reader = s₀.reader
  calls : s.calls = s₀.calls

/-- An item in the hands of the worker is a frame of the stream. -/
theorem held_frame (hσ : σ.Whole) (hfs : Deframes stream fs t)
    (h : Reach (step σ) Room (start stream c) s) {item : Bytes}
    (hw : s.queue.worker = .holding item) : ∃ f ∈ fs, f.bytes = item := by
  have hinv := reach_inv h
  have hmem : item ∈ passed s.queue := by
    rw [← hinv.passed_eq, hw]
    simp [Worker.held]
  rw [reach_kept h] at hmem
  exact List.mem_map.mp ((hinv.firstFrames hσ hfs).1.subset hmem)

/-- The worker's next step, with the callback where it holds an item. -/
theorem work_goes_on (hσ : σ.Whole) (hfs : Deframes stream fs t) (hharmless : Harmless x fs)
    (h : Reach (step σ) Room (start stream c) s) (hw : s.queue.worker ≠ .waiting) :
    ∃ s', s.step σ .work = some s' ∧ s'.reader = s.reader ∧ s'.calls = s.calls ∧
      load s'.queue < load s.queue := by
  obtain ⟨q', hq'⟩ := doWork_goes_on (reach_started h) hw
  have hload := (doWork_load (reach_started h) hq').2
  have hqueue : s.queue.step .work = some q' := hq'
  by_cases hheld : ∃ item, s.queue.worker = .holding item
  · obtain ⟨item, hitem⟩ := hheld
    obtain ⟨f, hf, rfl⟩ := held_frame hσ hfs h hitem
    obtain ⟨r, hr⟩ := hharmless s.client f hf
    refine ⟨{ s with queue := q', client := r.1, outputs := s.outputs ++ r.2 }, ?_, rfl, rfl, hload⟩
    simp only [step, hqueue, Option.bind_some, hitem, handle, hr]
    rfl
  · refine ⟨{ s with queue := q' }, ?_, rfl, rfl, hload⟩
    simp only [step, hqueue, Option.bind_some]
    split
    · rename_i item hitem
      exact absurd ⟨item, hitem⟩ hheld
    · rfl

/-- Between two trips the queue runs empty. -/
theorem drained (hσ : σ.Whole) (hfs : Deframes stream fs t) (hharmless : Harmless x fs)
    (h : Reach (step σ) Room (start stream c) s) :
    ∃ s', Reach (step σ) Room s s' ∧ Drains σ stream c s s' ∧ Rests s' := by
  refine Reach.exists_goal (Drains σ stream c s) Rests (fun s' => load s'.queue) ?_ ⟨h, rfl, rfl⟩
  intro s' hs' hnot
  by_cases hpush : s'.queue.calls ≠ [] ∧ s'.queue.worker.ownsMutex ≠ true
  · obtain ⟨q', hq', hload⟩ := push_goes_on hpush.1 hpush.2
    have hstep : s'.step σ .push = some { s' with queue := q' } := by
      simp only [step, hq', Option.map_some]
    exact ⟨.push, _, trivial, hstep,
      ⟨.step (a := .push) hs'.reach trivial hstep, hs'.reader, hs'.calls⟩, hload⟩
  · have hw : s'.queue.worker ≠ .waiting := by
      intro hwaiting
      refine hpush ⟨fun hcalls => hnot ⟨hcalls, hwaiting⟩, ?_⟩
      rw [hwaiting]
      decide
    obtain ⟨s'', hstep, hreader, hcalls, hload⟩ :=
      work_goes_on hσ hfs hharmless hs'.reach hw
    exact ⟨.work, s'', trivial, hstep,
      ⟨.step (a := .work) hs'.reach trivial hstep, hreader.trans hs'.reader,
        hcalls.trans hs'.calls⟩, hload⟩

/-- With the queue at rest, the read thread makes a trip. -/
theorem trip_goes_on (hinv : Inv σ stream c s) (hrests : Rests s) :
    ∃ s', s.step σ .trip = some s' ∧ Room s .trip ∧ s'.reader = s.reader.step σ ∧
      s'.calls = s.calls := by
  have hempty : s.queue.queue = [] := hinv.queue.idle (by rw [hrests.2]; rfl)
  have hroom : Room s .trip := by
    show s.queue.queue.length ≤ maxQueueDepth
    rw [hempty]
    exact Nat.zero_le _
  have hcalls : ¬ s.queue.calls ≠ [] := not_not.mpr hrests.1
  cases hover : handedOver σ s.reader with
  | nil =>
    refine ⟨{ s with reader := s.reader.step σ }, ?_, hroom, rfl, rfl⟩
    simp only [step, if_neg hcalls, hover]
  | cons data rest =>
    have henqueue : ∃ queue, s.queue.step (.enqueue data true) = some queue := by
      simp only [ThreadedQueue.step]
      split <;> exact ⟨_, rfl⟩
    obtain ⟨queue, hqueue⟩ := henqueue
    refine ⟨{ s with reader := s.reader.step σ, queue := queue }, ?_, hroom, rfl, rfl⟩
    simp only [step, if_neg hcalls, hover, hqueue, Option.map_some]

/-- The read thread makes its trips one by one, with the queue at rest before each. -/
theorem trips (hσ : σ.Whole) (hfs : Deframes stream fs t) (hharmless : Harmless x fs)
    (h : Reach (step σ) Room (start stream c) s) (n : Nat) :
    ∃ s', Reach (step σ) Room s s' ∧ Rests s' ∧ s'.reader = s.reader.run σ n ∧
      s'.calls = s.calls := by
  induction n with
  | zero =>
    obtain ⟨s', hreach, hdrains, hrests⟩ := drained hσ hfs hharmless h
    exact ⟨s', hreach, hrests, hdrains.reader, hdrains.calls⟩
  | succ n ih =>
    obtain ⟨s₁, hreach₁, hrests₁, hreader₁, hcalls₁⟩ := ih
    obtain ⟨s₂, hstep, hroom, hreader₂, hcalls₂⟩ :=
      trip_goes_on (reach_inv (h.trans hreach₁)) hrests₁
    have hreach₂ : Reach (step σ) Room s s₂ := .step hreach₁ hroom hstep
    obtain ⟨s₃, hreach₃, hdrains, hrests₃⟩ := drained hσ hfs hharmless (h.trans hreach₂)
    refine ⟨s₃, hreach₂.trans hreach₃, hrests₃, ?_, ?_⟩
    · rw [hdrains.reader, hreader₂, hreader₁]
      rfl
    · rw [hdrains.calls, hcalls₂, hcalls₁]

/-- **No way into a dead end.** From any state that is reached with room in the queue, whatever the
    threads have done, steps of the read thread and the worker lead to a state in which they have
    come to rest and the client has handled all frames of the stream. -/
theorem pipeline_finishes (hσ : σ.Whole) (hfs : Deframes stream fs t) (hharmless : Harmless x fs)
    (h : Reach (step σ) Room (start stream c) s) :
    ∃ s', Reach (step σ) Room s s' ∧ Quiet σ s' ∧ s'.calls = s.calls ∧
      ∃ events, c.run events = .ok (s'.client, s'.outputs) ∧ events.filter isCall = s'.calls ∧
        received events = fs.map Frame.bytes := by
  obtain ⟨-, N, hN⟩ := (reach_inv h).firstFrames hσ hfs
  obtain ⟨s', hreach, hrests, hreader, hcalls⟩ := trips hσ hfs hharmless h N
  have hquiet : Quiet σ s' := by
    refine ⟨fun n => ?_, hrests.1, hrests.2⟩
    have hlast := hN 0
    rw [hreader, ← ReadThread.run_add, hN]
    exact hlast.symm
  obtain ⟨events, hrun, hcall, -, hall⟩ := pipeline_complete hσ hfs (h.trans hreach)
  exact ⟨s', hreach, hquiet, hcalls, events, hrun, hcall, hall hquiet⟩

/-- From the start, with one frame to come. -/
theorem pipeline_finishes_one :
    ∃ (s : Pipeline .unparsed) (events : List Event), Quiet Schedule.whole s ∧
      RadarClient.new.run events = .ok (s.client, s.outputs) ∧
      received events = [keepAlive.bytes] := by
  have hharmless : Harmless .unparsed [keepAlive] := by
    intro c f hf
    obtain rfl := List.mem_singleton.mp hf
    exact ⟨(c, []), rfl⟩
  have hstart : Reach (step Schedule.whole) Room (start (x := .unparsed) keepAlive.bytes .new) _ :=
    .init
  obtain ⟨s, -, hquiet, -, events, hrun, -, hall⟩ :=
    pipeline_finishes Network.Schedule.whole_whole deframes_keepAlive hharmless hstart
  exact ⟨s, events, hquiet, hrun, hall⟩

end Rest

end Pipeline

end Navtech
