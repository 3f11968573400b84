/-
  From the bytes of a connection to the callbacks of a `Radar_client`: the read thread, the
  `Threaded_queue` that it hands its buffers to, the queue's worker, which calls
  `Radar_client::handle_data`, and the threads of the user, interleaved.

  The read thread calls `enqueue` for a buffer and goes on when the call has returned, so it
  makes a trip only while no call is in flight. The worker handles an item in the step that
  calls the callback. A call of the user, which may set a callback or make a request, comes
  between any two steps; the state does not stop the client.

  A handler and a call of the user are one step each, so that the calls do not fall into a
  handler or into each other. The source does not see to this: `stop_fft_data` sends before it
  lowers the flag, and the raw callbacks are looked at without the lock. A handler that reads
  past the end of its message makes no step.

  Whatever the kernel answers and however these steps interleave, the client has gone through
  the calls of the user and some of the frames cut out of the stream, in order, none twice
  (`pipeline_sound`). If the queue takes every frame and the kernel hands over what is there, they
  are the first frames of the stream, and all of them once the read thread has handed over what it
  can and the worker waits (`pipeline_complete`).
-/
import Navtech.Network.Framing
import Navtech.Network.RadarClientRun
import Navtech.Utility.ThreadedQueue

namespace Navtech

open CheckedView Transition
open Navtech.Network (Bytes Deframes Frame ReadThread Schedule)

/-- `Tcp_radar_client` and `Radar_client` between `connect()` and the end of the connection. -/
structure Pipeline (x : Externals) where
  reader : ReadThread
  /-- `receive_data_queue`. -/
  queue : ThreadedQueue Bytes
  client : RadarClient
  /-- What the client has handed out. -/
  outputs : List (Output x)
  /-- The calls of the user so far. -/
  calls : List RadarClient.Event

namespace Pipeline

open RadarClient (Event)

variable {x : Externals}

/-- A step of one of the threads. -/
inductive Action where
  /-- A trip of the read thread, up to the tests of `enqueue` where it has a buffer. -/
  | trip
  /-- The rest of the `enqueue`. -/
  | push
  | work
  /-- The worker's wait ends for no reason. -/
  | wake
  | call (e : Event)

/-- The buffers handed over by a trip. -/
def handedOver (σ : Schedule) (reader : ReadThread) : List Bytes :=
  (reader.step σ).receiveDataQueue.drop reader.receiveDataQueue.length

/-- A call of the user. Frames come from the queue only. -/
def isCall : Event → Bool
  | .received _ => false
  | _ => true

/-- `dequeue_callback`, which is `handle_data`. -/
def handle (s : Pipeline x) (item : Bytes) : Option (Pipeline x) :=
  (s.client.handleData item).toOption.map fun r =>
    { s with client := r.1, outputs := s.outputs ++ r.2 }

/-- One step, where it can be taken and no handler is at fault. Handlers and calls of the user run
    to their end. -/
def step (σ : Schedule) (s : Pipeline x) : Action → Option (Pipeline x)
  | .trip =>
    if s.queue.calls ≠ [] then none
    else
      match handedOver σ s.reader with
      | [] => some { s with reader := s.reader.step σ }
      | data :: _ => (s.queue.step (.enqueue data true)).map fun queue =>
        { s with reader := s.reader.step σ, queue := queue }
  | .push => (s.queue.step (.push 0)).map fun queue => { s with queue := queue }
  | .work =>
    (s.queue.step .work).bind fun queue =>
      match s.queue.worker with
      | .holding item => ({ s with queue := queue } : Pipeline x).handle item
      | _ => some { s with queue := queue }
  | .wake => (s.queue.step .wake).map fun queue => { s with queue := queue }
  | .call e =>
    if isCall e then
      (s.client.step e).toOption.map fun r =>
        { s with client := r.1, outputs := s.outputs ++ r.2, calls := s.calls ++ [e] }
    else none

/-- The queue has room for what a trip may hand over. -/
def Room (s : Pipeline x) : Action → Prop
  | .trip => s.queue.queue.length ≤ maxQueueDepth
  | _ => True

/-- Just connected, with a client that has been set up. -/
def start (stream : Bytes) (c : RadarClient) : Pipeline x :=
  ⟨.start stream, .started, c, [], []⟩

/-- The frames among the events, as bytes. -/
def received (events : List Event) : List Bytes :=
  events.filterMap fun
    | .received f => some f.bytes
    | _ => none

/-- The read thread hands over nothing more, no call is in flight and the worker waits. -/
structure Quiet (σ : Schedule) (s : Pipeline x) : Prop where
  finished : ∀ n, (s.reader.run σ n).receiveDataQueue = s.reader.receiveDataQueue
  calls : s.queue.calls = []
  waiting : s.queue.worker = .waiting

/-! ## The queue -/

section Queue

variable {T : Type} {q q' : ThreadedQueue T}

/-- The buffers that have passed the tests of `enqueue`, in order. -/
def passed (q : ThreadedQueue T) : List T := q.accepted ++ q.calls.map Prod.fst

/-- The queue has been started and not been stopped. -/
structure Open (q : ThreadedQueue T) : Prop where
  stopping : q.stopping = false
  callback : q.dequeueCallback = true
  joinable : q.joinable = true

/-- The worker only takes items from the queue and hands them to the callback. -/
theorem doWork_frame (h : q.doWork = some q') :
    q'.accepted = q.accepted ∧ q'.calls = q.calls ∧ (Open q → Open q') ∧
      q'.handed = q.handed ++ if q.dequeueCallback then q.worker.held else [] := by
  unfold ThreadedQueue.doWork at h
  split at h
  case h_1 hw | h_4 hw | h_5 hw | h_7 hw =>
    obtain rfl := Option.some.inj h
    refine ⟨rfl, rfl, fun ho => ⟨ho.stopping, ho.callback, ho.joinable⟩, ?_⟩
    rw [hw]
    simp [Worker.held]
  case h_2 hw =>
    split at h <;> obtain rfl := Option.some.inj h <;>
      refine ⟨rfl, rfl, fun ho => ⟨ho.stopping, ho.callback, ho.joinable⟩, ?_⟩ <;>
      rw [hw] <;> simp [Worker.held]
  case h_3 item hw =>
    obtain rfl := Option.some.inj h
    refine ⟨rfl, rfl, fun ho => ⟨ho.stopping, ho.callback, ho.joinable⟩, ?_⟩
    rw [hw]
    show (if q.dequeueCallback = true then q.handed ++ [item] else q.handed) = _
    split <;> simp [Worker.held]
  case h_6 | h_8 => cases h

theorem push_frame (h : q.step (.push 0) = some q') :
    passed q' = passed q ∧ q'.handed = q.handed ∧ (Open q → Open q') := by
  cases ThreadedQueue.step_moves h with
  | refused => exact ⟨rfl, rfl, id⟩
  | @pushed i item notify hfree hcall =>
    refine ⟨?_, rfl, fun ho => ⟨ho.stopping, ho.callback, ho.joinable⟩⟩
    obtain ⟨call, calls, hcalls⟩ : ∃ call calls, q.calls = call :: calls := by
      cases hc : q.calls with
      | nil =>
        rw [hc] at hcall
        cases hcall
      | cons call calls => exact ⟨call, calls, rfl⟩
    rw [hcalls] at hcall
    obtain rfl := Option.some.inj hcall
    unfold passed
    rw [hcalls]
    simp

theorem wake_frame (h : q.step .wake = some q') :
    passed q' = passed q ∧ q'.handed = q.handed ∧ (Open q → Open q') := by
  cases ThreadedQueue.step_moves h with
  | refused => exact ⟨rfl, rfl, id⟩
  | woken hw => exact ⟨rfl, rfl, fun ho => ⟨ho.stopping, ho.callback, ho.joinable⟩⟩

/-- A call of `enqueue` passes unless the queue is stopped or too long. -/
theorem enqueue_frame {item : T} (h : q.step (.enqueue item true) = some q') :
    (passed q' = passed q ∨ passed q' = passed q ++ [item]) ∧ q'.handed = q.handed ∧
      (Open q → Open q') ∧
      (Open q → q.queue.length ≤ maxQueueDepth → passed q' = passed q ++ [item]) := by
  have hcalled : passed { q with calls := q.calls ++ [(item, true)] } = passed q ++ [item] := by
    unfold passed
    simp
  simp only [ThreadedQueue.step] at h
  split at h
  · rename_i hrefused
    obtain rfl := Option.some.inj h
    refine ⟨.inl rfl, rfl, id, fun ho hroom => ?_⟩
    rw [ho.stopping, ho.callback, ho.joinable] at hrefused
    simp only [Bool.not_true, Bool.or_self, Bool.false_or, decide_eq_true_eq] at hrefused
    omega
  · obtain rfl := Option.some.inj h
    exact ⟨.inr hcalled, rfl, fun ho => ⟨ho.stopping, ho.callback, ho.joinable⟩,
      fun _ _ => hcalled⟩

end Queue

/-! ## The steps -/

section Steps

variable {σ : Schedule} {s s' : Pipeline x}

/-- What a step does, with the parts that take it. -/
inductive Moves (σ : Schedule) (s : Pipeline x) : Action → Pipeline x → Prop where
  | idle : handedOver σ s.reader = [] → Moves σ s .trip { s with reader := s.reader.step σ }
  | enqueued {data : Bytes} {rest : List Bytes} {queue : ThreadedQueue Bytes} :
      handedOver σ s.reader = data :: rest → s.queue.step (.enqueue data true) = some queue →
      Moves σ s .trip { s with reader := s.reader.step σ, queue := queue }
  | pushed {queue : ThreadedQueue Bytes} : s.queue.step (.push 0) = some queue →
      Moves σ s .push { s with queue := queue }
  | worked {queue : ThreadedQueue Bytes} : s.queue.worker.held = [] →
      s.queue.doWork = some queue → Moves σ s .work { s with queue := queue }
  | handled {item : Bytes} {queue : ThreadedQueue Bytes} {r : RadarClient × List (Output x)} :
      s.queue.worker = .holding item → s.queue.doWork = some queue →
      s.client.handleData item = .ok r →
      Moves σ s .work
        { s with queue := queue, client := r.1, outputs := s.outputs ++ r.2 }
  | woken {queue : ThreadedQueue Bytes} : s.queue.step .wake = some queue →
      Moves σ s .wake { s with queue := queue }
  | called {e : Event} {r : RadarClient × List (Output x)} : isCall e = true →
      s.client.step e = .ok r → Moves σ s (.call e)
        { s with client := r.1, outputs := s.outputs ++ r.2, calls := s.calls ++ [e] }

theorem step_moves {a : Action} (h : s.step σ a = some s') : Moves σ s a s' := by
  cases a with
  | trip =>
    simp only [step] at h
    split at h
    · cases h
    · split at h
      · rename_i hnone
        obtain rfl := Option.some.inj h
        exact .idle hnone
      · rename_i data rest hsome
        obtain ⟨queue, hqueue, rfl⟩ := Option.map_eq_some_iff.mp h
        exact .enqueued hsome hqueue
  | push =>
    obtain ⟨queue, hqueue, rfl⟩ := Option.map_eq_some_iff.mp h
    exact .pushed hqueue
  | work =>
    obtain ⟨queue, hqueue, h⟩ := Option.bind_eq_some_iff.mp h
    split at h
    · rename_i item hw
      obtain ⟨r, hr, rfl⟩ := Option.map_eq_some_iff.mp h
      exact .handled hw hqueue (toOption_eq_some.mp hr)
    · rename_i hw
      obtain rfl := Option.some.inj h
      refine .worked ?_ hqueue
      cases hworker : s.queue.worker with
      | holding item => exact absurd hworker (hw item)
      | _ => rfl
  | wake =>
    obtain ⟨queue, hqueue, rfl⟩ := Option.map_eq_some_iff.mp h
    exact .woken hqueue
  | call e =>
    simp only [step] at h
    split at h
    · rename_i hcall
      obtain ⟨r, hr, rfl⟩ := Option.map_eq_some_iff.mp h
      exact .called hcall (toOption_eq_some.mp hr)
    · cases h

/-- A trip hands over one buffer or none. -/
theorem handedOver_spec {reader : ReadThread} (hinv : reader.Inv) :
    (reader.step σ).receiveDataQueue = reader.receiveDataQueue ++ handedOver σ reader ∧
      (handedOver σ reader).length ≤ 1 := by
  unfold handedOver
  refine ReadThread.step_rule (P := fun st => st.receiveDataQueue = reader.receiveDataQueue ++
    st.receiveDataQueue.drop reader.receiveDataQueue.length ∧
      (st.receiveDataQueue.drop reader.receiveDataQueue.length).length ≤ 1) hinv ?_ ?_
  · simp
  · intro st' _ _ htrip
    cases htrip with
    | framed f _ _ _ => simp [ReadThread.enqueue]
    | quiet _ | skipped _ _ _ _ | left _ _ => simp [ReadThread.failed]

/-! ## The invariant -/

/-- The client has gone through these events. -/
def Gone (c : RadarClient) (s : Pipeline x) (events : List Event) : Prop :=
  c.run events = .ok (s.client, s.outputs) ∧ events.filter isCall = s.calls ∧
    received events = s.queue.handed

/-- What passes through the queue has been handed over, and the client has gone through some of
    it. -/
structure Inv (σ : Schedule) (stream : Bytes) (c : RadarClient) (s : Pipeline x) : Prop where
  reader : ∃ n, s.reader = ReadThread.run σ (.start stream) n
  queue : s.queue.Inv
  opened : Open s.queue
  passes : List.Sublist (passed s.queue) s.reader.receiveDataQueue
  gone : ∃ events, Gone c s events

variable {stream : Bytes} {c : RadarClient}

theorem inv_start (stream : Bytes) (c : RadarClient) :
    Inv σ stream c (start (x := x) stream c) where
  reader := ⟨0, rfl⟩
  queue := ThreadedQueue.inv_started
  opened := ⟨rfl, rfl, rfl⟩
  passes := .slnil
  gone := ⟨[], rfl, rfl, rfl⟩

/-- One more event. -/
theorem run_concat {events : List Event} {e : Event} {r r' : RadarClient × List (Output x)}
    (h : c.run events = .ok r) (hstep : r.1.step e = .ok r') :
    c.run (events ++ [e]) = .ok (r'.1, r.2 ++ r'.2) := by
  induction events generalizing c r with
  | nil =>
    obtain rfl := Except.ok.inj h
    exact bind_eq_ok.mpr ⟨r', hstep, congrArg (fun o => Except.ok (r'.1, o)) (List.append_nil _)⟩
  | cons e' events ih =>
    obtain ⟨r₁, r₂, hfirst, hrest, rfl⟩ := RadarClient.run_cons h
    refine bind_eq_ok.mpr ⟨r₁, hfirst, bind_eq_ok.mpr ⟨_, ih hrest hstep, ?_⟩⟩
    rw [List.append_assoc]
    rfl

/-- What has passed is a buffer cut out of the stream, and so is what the worker holds. -/
theorem Inv.frame (hinv : Inv σ stream c s) {item : Bytes}
    (hw : s.queue.worker = .holding item) : ∃ f : Frame, f.bytes = item := by
  have haccepted : item ∈ s.queue.accepted := by
    rw [hinv.queue.kept, hw]
    simp [Worker.held]
  have hpassed : item ∈ s.reader.receiveDataQueue :=
    hinv.passes.subset (List.mem_append_left _ haccepted)
  obtain ⟨n, hn⟩ := hinv.reader
  obtain ⟨pieces, -, -, hqueue⟩ := ReadThread.run_framed σ stream n
  rw [hn, hqueue] at hpassed
  obtain ⟨p, -, hp⟩ := List.mem_map.mp hpassed
  exact ⟨p.2, hp⟩

theorem received_append (a b : List Event) : received (a ++ b) = received a ++ received b :=
  List.filterMap_append

theorem received_call {e : Event} (h : isCall e = true) : received [e] = [] := by
  cases e <;> first | rfl | cases h

/-- The worker's steps but the callback leave the client where it is. -/
theorem Inv.moved (hinv : Inv σ stream c s) {queue : ThreadedQueue Bytes} (hqueue : queue.Inv)
    (hopen : Open s.queue → Open queue) (hpassed : passed queue = passed s.queue)
    (hhanded : queue.handed = s.queue.handed) : Inv σ stream c { s with queue := queue } where
  reader := hinv.reader
  queue := hqueue
  opened := hopen hinv.opened
  passes := by
    show List.Sublist (passed queue) _
    rw [hpassed]
    exact hinv.passes
  gone := by
    obtain ⟨events, hrun, hcalls, hreceived⟩ := hinv.gone
    exact ⟨events, hrun, hcalls, hreceived.trans hhanded.symm⟩

theorem inv_enqueued (hinv : Inv σ stream c s) {data : Bytes} {rest : List Bytes}
    {queue : ThreadedQueue Bytes} (hdata : handedOver σ s.reader = data :: rest)
    (hqueue : s.queue.step (.enqueue data true) = some queue) :
    Inv σ stream c { s with reader := s.reader.step σ, queue := queue } := by
  obtain ⟨hpassed, hhanded, hopen, -⟩ := enqueue_frame hqueue
  obtain ⟨n, hn⟩ := hinv.reader
  obtain ⟨hover, hlen⟩ :=
    handedOver_spec (σ := σ) (hn ▸ ReadThread.run_inv (ReadThread.inv_start _) n)
  refine ⟨⟨n + 1, ?_⟩, ThreadedQueue.inv_step hinv.queue (a := .enqueue data true) rfl hqueue,
    hopen hinv.opened, ?_, ?_⟩
  · show s.reader.step σ = _
    rw [hn]
    rfl
  · show List.Sublist (passed queue) (s.reader.step σ).receiveDataQueue
    rw [hover, hdata]
    rcases hpassed with hsame | hmore
    · rw [hsame]
      exact hinv.passes.trans (List.sublist_append_left _ _)
    · rw [hmore]
      exact hinv.passes.append (List.singleton_sublist.mpr List.mem_cons_self)
  · obtain ⟨events, hrun, hcalls, hreceived⟩ := hinv.gone
    exact ⟨events, hrun, hcalls, hreceived.trans hhanded.symm⟩

theorem inv_handled (hinv : Inv σ stream c s) {item : Bytes} {queue : ThreadedQueue Bytes}
    {r : RadarClient × List (Output x)} (hw : s.queue.worker = .holding item)
    (hqueue : s.queue.doWork = some queue) (hr : s.client.handleData item = .ok r) :
    Inv σ stream c { s with queue := queue, client := r.1, outputs := s.outputs ++ r.2 } := by
  obtain ⟨haccepted, hcallsq, hopen, hhanded⟩ := doWork_frame hqueue
  obtain ⟨f, rfl⟩ := hinv.frame hw
  rw [if_pos hinv.opened.callback, hw] at hhanded
  refine ⟨hinv.reader, ThreadedQueue.inv_doWork hinv.queue hqueue, hopen hinv.opened, ?_, ?_⟩
  · show List.Sublist (queue.accepted ++ queue.calls.map Prod.fst) _
    rw [haccepted, hcallsq]
    exact hinv.passes
  · obtain ⟨events, hrun, hcalls, hreceived⟩ := hinv.gone
    refine ⟨events ++ [.received f], run_concat (e := .received f) hrun hr, ?_, ?_⟩
    · rw [List.filter_append, hcalls]
      exact List.append_nil _
    · rw [received_append, hreceived]
      exact hhanded.symm

theorem inv_step (hinv : Inv σ stream c s) {a : Action} (h : s.step σ a = some s') :
    Inv σ stream c s' := by
  cases step_moves h with
  | idle hnone =>
    obtain ⟨n, hn⟩ := hinv.reader
    obtain ⟨hover, -⟩ :=
      handedOver_spec (σ := σ) (hn ▸ ReadThread.run_inv (ReadThread.inv_start _) n)
    refine ⟨⟨n + 1, ?_⟩, hinv.queue, hinv.opened, ?_, hinv.gone⟩
    · show s.reader.step σ = _
      rw [hn]
      rfl
    · show List.Sublist (passed s.queue) (s.reader.step σ).receiveDataQueue
      rw [hover, hnone, List.append_nil]
      exact hinv.passes
  | enqueued hdata hqueue => exact inv_enqueued hinv hdata hqueue
  | pushed hqueue =>
    obtain ⟨hpassed, hhanded, hopen⟩ := push_frame hqueue
    exact hinv.moved (ThreadedQueue.inv_step hinv.queue (a := .push 0) trivial hqueue) hopen
      hpassed hhanded
  | worked hheld hqueue =>
    obtain ⟨haccepted, hcallsq, hopen, hhanded⟩ := doWork_frame hqueue
    rw [hheld, ite_self, List.append_nil] at hhanded
    refine hinv.moved (ThreadedQueue.inv_doWork hinv.queue hqueue) hopen ?_ hhanded
    unfold passed
    rw [haccepted, hcallsq]
  | handled hw hqueue hr => exact inv_handled hinv hw hqueue hr
  | woken hqueue =>
    obtain ⟨hpassed, hhanded, hopen⟩ := wake_frame hqueue
    exact hinv.moved (ThreadedQueue.inv_step hinv.queue (a := .wake) trivial hqueue) hopen
      hpassed hhanded
  | called hcall hr =>
    refine ⟨hinv.reader, hinv.queue, hinv.opened, hinv.passes, ?_⟩
    obtain ⟨events, hrun, hcalls, hreceived⟩ := hinv.gone
    refine ⟨events ++ [_], run_concat hrun hr, ?_, ?_⟩
    · rw [List.filter_append, hcalls, List.filter_cons_of_pos hcall]
      rfl
    · rw [received_append, received_call hcall, List.append_nil]
      exact hreceived

/-- An item that has passed is with the client, the worker, the queue, or in flight. -/
theorem Inv.passed_eq (hinv : Inv σ stream c s) :
    s.queue.handed ++ (s.queue.worker.held ++ (s.queue.queue ++ s.queue.calls.map Prod.fst)) =
      passed s.queue := by
  unfold passed
  rw [hinv.queue.kept, List.append_assoc, List.append_assoc]

/-- **Nothing but the frames of the stream**, whatever the kernel answers and however the steps
    interleave: in every state the client has gone through the calls of the user, in order, and
    frames cut out of the stream, in order and none twice, and has handed out what these make it
    hand out. -/
theorem pipeline_sound (h : Reach (step σ) always (start stream c) s) :
    ∃ events, c.run events = .ok (s.client, s.outputs) ∧ events.filter isCall = s.calls ∧
      ∃ (pieces : List (Bytes × Frame)) (skipped : Bytes),
        stream = (pieces.flatMap fun p => p.1 ++ p.2.bytes) ++ skipped ++ s.reader.kernel.unread ∧
        List.Sublist (received events) (pieces.map fun p => p.2.bytes) := by
  have hinv : Inv σ stream c s :=
    h.invariant (inv_start stream c) fun hinv _ hs => inv_step hinv hs
  obtain ⟨events, hrun, hcalls, hreceived⟩ := hinv.gone
  obtain ⟨n, hn⟩ := hinv.reader
  obtain ⟨pieces, skipped, hstream, hqueue⟩ := ReadThread.run_framed σ stream n
  refine ⟨events, hrun, hcalls, pieces, skipped, ?_, ?_⟩
  · rw [hn]
    exact hstream
  · rw [← hqueue, ← hn, hreceived]
    refine List.Sublist.trans ?_ hinv.passes
    rw [← hinv.passed_eq]
    exact List.sublist_append_left _ _

/-- A frame of type 1, which is `keep_alive`. -/
def keepAlive : Frame := ⟨1, [], by decide⟩

/-- The steps that a frame takes from the socket to the client, and the worker's way to its wait. -/
def passage : List Action := [.trip, .push, .work, .work, .work, .work, .work]

/-- One frame, handled. -/
theorem pipeline_sound_one :
    ∃ (s : Pipeline .unparsed) (events : List Event), s.queue.handed = [keepAlive.bytes] ∧
      RadarClient.new.run events = .ok (s.client, s.outputs) := by
  obtain ⟨s, hreach, hhanded⟩ := exists_reach (step Schedule.whole) always
    (start (x := .unparsed) keepAlive.bytes .new) passage
    (fun s => s.queue.handed = [keepAlive.bytes]) (by decide)
  obtain ⟨events, hrun, -⟩ := pipeline_sound hreach
  exact ⟨s, events, hhanded, hrun⟩

/-! ## A queue with room -/

/-- With room in the queue, what the read thread has handed over has passed. -/
theorem step_kept (hinv : Inv σ stream c s) (hkept : passed s.queue = s.reader.receiveDataQueue)
    {a : Action} (hroom : Room s a) (h : s.step σ a = some s') :
    passed s'.queue = s'.reader.receiveDataQueue := by
  have hreader : s.reader.Inv := by
    obtain ⟨n, hn⟩ := hinv.reader
    rw [hn]
    exact ReadThread.run_inv (ReadThread.inv_start _) n
  obtain ⟨hover, hlen⟩ := handedOver_spec (σ := σ) hreader
  cases step_moves h with
  | idle hnone =>
    rw [hnone, List.append_nil] at hover
    exact hkept.trans hover.symm
  | @enqueued data rest queue hdata hqueue =>
    obtain ⟨-, -, -, hpassed⟩ := enqueue_frame hqueue
    have hrest : rest = [] := by
      rw [hdata, List.length_cons] at hlen
      exact List.eq_nil_of_length_eq_zero (by omega)
    rw [hdata, hrest] at hover
    show passed queue = (s.reader.step σ).receiveDataQueue
    rw [hpassed hinv.opened hroom, hkept, hover]
  | pushed hqueue => exact (push_frame hqueue).1.trans hkept
  | worked hheld hqueue =>
    obtain ⟨haccepted, hcallsq, -, -⟩ := doWork_frame hqueue
    refine Eq.trans ?_ hkept
    unfold passed
    rw [haccepted, hcallsq]
  | handled hw hqueue hr =>
    obtain ⟨haccepted, hcallsq, -, -⟩ := doWork_frame hqueue
    refine Eq.trans ?_ hkept
    unfold passed
    rw [haccepted, hcallsq]
  | woken hqueue => exact (wake_frame hqueue).1.trans hkept
  | called hcall hr => exact hkept

/-- What has been handed over stays handed over. -/
theorem run_handsOn {reader : ReadThread} (hinv : reader.Inv) (n : Nat) :
    reader.receiveDataQueue <+: (reader.run σ n).receiveDataQueue := by
  induction n with
  | zero => exact List.prefix_rfl
  | succ n ih =>
    refine ih.trans ?_
    show _ <+: ((reader.run σ n).step σ).receiveDataQueue
    rw [(handedOver_spec (ReadThread.run_inv hinv n)).1]
    exact List.prefix_append _ _

/-- What the read thread hands over of the frames of the stream. -/
theorem Inv.firstFrames (hinv : Inv σ stream c s) (hσ : σ.Whole) {fs : List Frame} {t : Bytes}
    (hfs : Deframes stream fs t) :
    s.reader.receiveDataQueue <+: fs.map Frame.bytes ∧
      ∃ N, ∀ n, (s.reader.run σ (N + n)).receiveDataQueue = fs.map Frame.bytes := by
  obtain ⟨n, hn⟩ := hinv.reader
  obtain ⟨N, hN⟩ := ReadThread.handsOver_of_deframes hσ hfs
  have hlast (m : Nat) : (s.reader.run σ (N + m)).receiveDataQueue = fs.map Frame.bytes := by
    rw [hn, ← ReadThread.run_add]
    exact hN _ (by omega)
  have hreader : s.reader.Inv := by
    rw [hn]
    exact ReadThread.run_inv (ReadThread.inv_start _) n
  refine ⟨?_, N, hlast⟩
  rw [← hlast 0]
  exact run_handsOn hreader _

theorem reach_inv (h : Reach (step σ) Room (start stream c) s) : Inv σ stream c s :=
  h.invariant (inv_start stream c) fun hinv _ hs => inv_step hinv hs

theorem reach_kept (h : Reach (step σ) Room (start stream c) s) :
    passed s.queue = s.reader.receiveDataQueue :=
  h.invariant_of (I := fun s => passed s.queue = s.reader.receiveDataQueue) reach_inv rfl
    fun hinv hkept hroom hs => step_kept hinv hkept hroom hs

/-- **The frames of the stream**, none lost, as long as the queue has room for them: in every state
    the client has gone through the calls of the user and the first frames of the stream, and
    through all of them once the threads have come to rest. -/
theorem pipeline_complete (hσ : σ.Whole) {fs : List Frame} {t : Bytes}
    (hfs : Deframes stream fs t) (h : Reach (step σ) Room (start stream c) s) :
    ∃ events, c.run events = .ok (s.client, s.outputs) ∧ events.filter isCall = s.calls ∧
      received events <+: fs.map Frame.bytes ∧
      (Quiet σ s → received events = fs.map Frame.bytes) := by
  have hinv := reach_inv h
  obtain ⟨events, hrun, hcalls, hreceived⟩ := hinv.gone
  obtain ⟨hfirst, N, hN⟩ := hinv.firstFrames hσ hfs
  have hall := hinv.passed_eq.trans (reach_kept h)
  refine ⟨events, hrun, hcalls, ?_, ?_⟩
  · rw [hreceived]
    exact (hall ▸ List.prefix_append _ _ : s.queue.handed <+: s.reader.receiveDataQueue).trans
      hfirst
  · intro hquiet
    -- a worker that waits has left the queue empty
    have hempty : s.queue.queue = [] := hinv.queue.idle (by rw [hquiet.waiting]; rfl)
    have hlast := hN 0
    rw [hquiet.finished, ← hall, hempty, hquiet.calls, hquiet.waiting] at hlast
    rw [hreceived, ← hlast]
    exact (List.append_nil _).symm

instance : ∀ (s : Pipeline x) (a : Action), Decidable (Room s a)
  | s, .trip => inferInstanceAs (Decidable (s.queue.queue.length ≤ maxQueueDepth))
  | _, .push | _, .work | _, .wake | _, .call _ => .isTrue trivial

theorem deframes_keepAlive : Deframes keepAlive.bytes [keepAlive] [] := by
  have h := Deframes.frame keepAlive (.cut .nil)
  rwa [List.append_nil] at h

/-- One frame, and the threads at rest. -/
theorem pipeline_complete_one :
    ∃ (s : Pipeline .unparsed) (events : List Event), Quiet Schedule.whole s ∧
      RadarClient.new.run events = .ok (s.client, s.outputs) ∧
      received events = [keepAlive.bytes] := by
  obtain ⟨s, hreach, hcalls, hwaiting, hshort⟩ := exists_reach (step Schedule.whole) Room
    (start (x := .unparsed) keepAlive.bytes .new) passage
    (fun s => s.queue.calls = [] ∧ s.queue.worker = .waiting ∧
      s.reader.kernel.unread.length < Network.Message.headerSize) (by decide)
  have hreader : s.reader.Inv := by
    obtain ⟨n, hn⟩ := (reach_inv hreach).reader
    rw [hn]
    exact ReadThread.run_inv (ReadThread.inv_start _) n
  have hquiet : Quiet Schedule.whole s := ⟨ReadThread.run_short hreader hshort, hcalls, hwaiting⟩
  obtain ⟨events, hrun, -, -, hall⟩ :=
    pipeline_complete Network.Schedule.whole_whole deframes_keepAlive hreach
  exact ⟨s, events, hquiet, hrun, hall hquiet⟩

end Steps

end Pipeline

end Navtech
