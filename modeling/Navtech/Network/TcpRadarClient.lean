/-
  The threads of `cpp_17/network/tcp_radar_client.cpp`, as one system: the user's calls of
  `start()` and `stop()`, any number of calls of `send()`, the reader thread, the connect thread
  and the connection-check timer.

  Each thread is a program counter that names the statement it will execute next, and a step
  executes one statement. Accesses of the atomic flags are single steps.
  `get_connection_state` and `set_connection_state` test `running` before they take the mutex,
  so the test is a step, and the access of the state under the mutex is the next one; a thread
  that has passed the test gets to the state even if `running` is lowered in between. What the
  network does (what a receive gets, whether a connection attempt or a send
  succeeds) is part of the action. A thread that has to wait (for a notification, or in a
  join) has no step until it may go on.

  `start()` and `stop()` are called one at a time, as by one owner of the client. The receive
  queue, the log and the pause in `start()` are left out: nothing here depends on them.
-/
import Navtech.Lib.Transition
import Navtech.Network.ReadThread

namespace Navtech.Network

/-! ## Program counters -/

/-- The next statement of `read_thread_handler`, and of `handle_data` within it. -/
inductive ReaderPc where
  /-- `while (reading && running)` -/
  | guard
  /-- The receive with the peek option. -/
  | peek
  /-- The receive of one byte where no signature starts. -/
  | drop
  /-- The receive of the header in `handle_data`. -/
  | header
  /-- The receive of the payload in `handle_data`. -/
  | payload
  /-- The test after `handle_data` has returned true. -/
  | handled
  /-- `set_connection_state(disconnected)` in `handle_data`, which then returns false. -/
  | markInHandle
  /-- The assignment in it. -/
  | storeInHandle
  /-- `set_connection_state(disconnected)` before `break`. -/
  | mark
  /-- The assignment in it. -/
  | storeMark
  /-- `reading = false` after the loop. -/
  | lower
  | exited
deriving DecidableEq, Repr

/-- The next statement of `connect_thread_handler`, and of `connect` within it. -/
inductive ConnectPc where
  /-- `while (running)` -/
  | guard
  /-- `connect_condition.wait(lock)`, not yet waiting. -/
  | enter
  | waiting
  /-- `if (!running) break` -/
  | woken
  /-- `if (get_connection_state() == connected) return` -/
  | check
  /-- The state is read in it. -/
  | checkState
  /-- `set_connection_state(connecting)` -/
  | markConnecting
  /-- The assignment in it. -/
  | storeConnecting
  /-- `socket.close()` -/
  | closeOld
  /-- `socket.create(read_timeout)` -/
  | create
  /-- `if (socket.connect())` -/
  | dial
  /-- `read_thread->join()`, if there is a read thread. -/
  | join
  /-- `set_connection_state(connected)` -/
  | markConnected
  /-- The assignment in it. -/
  | storeConnected
  /-- `reading = true` -/
  | raise
  /-- The new read thread. -/
  | spawn
  /-- `set_connection_state(disconnected)` after a failed attempt. -/
  | markFailed
  /-- The assignment in it. -/
  | storeFailed
  | exited
deriving DecidableEq, Repr

/-- The next statement of `start()` or `stop()`; `idle` between the calls. -/
inductive ControlPc where
  | idle
  /-- `running = true` -/
  | startRun
  /-- The new connect thread. -/
  | startSpawn
  /-- `connect_condition.notify_all()` -/
  | startNotify
  /-- `connection_check_timer.enable(true)` -/
  | startTimer
  /-- `connection_check_timer.enable(false)`: waits for a callback that is running. -/
  | stopTimer
  /-- `running = false` -/
  | stopRun
  /-- `socket.close(shutdown)` -/
  | stopClose
  /-- `connect_condition.notify_all()` -/
  | stopNotify
  /-- `connect_thread->join()` -/
  | stopJoinConnect
  /-- `reading = false` -/
  | stopLower
  /-- `read_thread->join()`, if there is a read thread. -/
  | stopJoinReader
deriving DecidableEq, Repr

/-- The connection-check timer. Inside `connection_check_handler` it is `checking` before it reads
    the state, and `notifying` behind its test. -/
inductive TimerPc where
  | off | on | checking | notifying
deriving DecidableEq, Repr

/-- What a receive of the reader gets. -/
inductive ReadResult where
  | nothing | signature | junk | payloadFollows | complete
deriving DecidableEq, Repr

/-! ## The client -/

/-- The members, and where each thread stands. -/
structure TcpRadarClient where
  connectionState : ConnectionState
  reading : Bool
  running : Bool
  /-- `socket.is_valid()` -/
  socketOpen : Bool
  /-- `read_thread`: null, or where the thread stands. -/
  reader : Option ReaderPc
  /-- `connect_thread`: null, or where the thread stands. -/
  connectThread : Option ConnectPc
  control : ControlPc
  timer : TimerPc
  /-- Calls of `send()` that have found the client running and not yet read the state. -/
  checkingSends : Nat
  /-- Calls of `send()` that have passed the test of the state and not yet sent. -/
  sending : Nat
  /-- Calls of `send()` that have failed. -/
  failedSends : Nat
  /-- Calls of `send()` that have failed, found the client running and not yet set the state. -/
  markingSends : Nat
  /-- `connect()` has been called since the last `start()`. -/
  attempted : Bool
deriving DecidableEq, Repr

/-- Behind the loop of the reader, or on a path that ends in `break`. -/
def ReaderPc.leaving : ReaderPc → Bool
  | .markInHandle | .storeInHandle | .mark | .storeMark | .lower | .exited => true
  | _ => false

/-- Behind the test of `running` in `set_connection_state`. -/
def ReaderPc.storing : ReaderPc → Bool
  | .storeInHandle | .storeMark => true
  | _ => false

/-- How many statements away the exit is once a flag is down. -/
def ReaderPc.toExit : ReaderPc → Nat
  | .exited => 0
  | .lower => 1
  | .guard | .storeMark => 2
  | .mark => 3
  | .peek | .drop | .handled | .storeInHandle => 4
  | .markInHandle => 5
  | .header | .payload => 6

namespace TcpRadarClient

/-- A client that has been constructed. -/
def constructed : TcpRadarClient where
  connectionState := .disconnected
  reading := false
  running := false
  socketOpen := false
  reader := none
  connectThread := none
  control := .idle
  timer := .off
  checkingSends := 0
  sending := 0
  failedSends := 0
  markingSends := 0
  attempted := false

/-- The assignment in `set_connection_state`, behind its test of `running`. -/
def store (s : TcpRadarClient) (state : ConnectionState) : TcpRadarClient :=
  { s with connectionState := state }

/-- `connect_condition.notify_one()` or `notify_all()`: only a thread that waits is woken. -/
def notify (s : TcpRadarClient) : TcpRadarClient :=
  { s with connectThread :=
      if s.connectThread = some .waiting then some .woken else s.connectThread }

/-- The read thread goes there. -/
def atReader (s : TcpRadarClient) (pc : ReaderPc) : TcpRadarClient := { s with reader := some pc }

/-- The connect thread goes there. -/
def atConnect (s : TcpRadarClient) (pc : ConnectPc) : TcpRadarClient :=
  { s with connectThread := some pc }

/-- The call of the user goes there. -/
def atControl (s : TcpRadarClient) (pc : ControlPc) : TcpRadarClient := { s with control := pc }

/-- The reader goes on where both flags are up, and elsewhere where one is down. -/
def branch (s : TcpRadarClient) (up down : ReaderPc) : TcpRadarClient :=
  s.atReader (if s.reading ∧ s.running then up else down)

/-- A statement of the read thread at `pc`. -/
def readerStep (s : TcpRadarClient) (result : ReadResult) (pc : ReaderPc) :
    Option TcpRadarClient :=
  match pc, result with
  | .guard, _ => some (s.branch .peek .lower)
  | .peek, .nothing => some (s.atReader .guard)
  | .peek, .signature => some (s.branch .header .mark)
  | .peek, _ => some (s.branch .drop .mark)
  | .drop, .nothing => some (s.atReader .mark)
  | .drop, _ => some (s.branch .guard .mark)
  | .header, .nothing => some (s.atReader .markInHandle)
  | .header, .payloadFollows => some (s.branch .payload .markInHandle)
  | .header, _ => some (s.branch .handled .markInHandle)
  | .payload, .nothing => some (s.atReader .markInHandle)
  | .payload, _ => some (s.branch .handled .markInHandle)
  | .handled, _ => some (s.branch .guard .mark)
  | .markInHandle, _ => some (s.atReader (if s.running then .storeInHandle else .mark))
  | .storeInHandle, _ => some ((s.store .disconnected).atReader .mark)
  | .mark, _ => some (s.atReader (if s.running then .storeMark else .lower))
  | .storeMark, _ => some ((s.store .disconnected).atReader .lower)
  | .lower, _ => some ({ s with reading := false }.atReader .exited)
  | .exited, _ => none

/-- A join of the read thread, if there is one: enabled once the thread has exited. -/
def joinReader (s : TcpRadarClient) : Option TcpRadarClient :=
  match s.reader with
  | none | some .exited => some { s with reader := none }
  | some _ => none

/-- A statement of the connect thread at `pc`; `ok` says whether the socket can be created, or
    the connection made. -/
def connectStep (s : TcpRadarClient) (ok : Bool) (pc : ConnectPc) : Option TcpRadarClient :=
  match pc with
  | .guard => some (s.atConnect (if s.running then .enter else .exited))
  | .enter => some (s.atConnect .waiting)
  | .waiting => none
  | .woken => some (s.atConnect (if s.running then .check else .exited))
  | .check =>
    some ({ s with attempted := true }.atConnect
      (if s.running then .checkState else .markConnecting))
  | .checkState =>
    some (s.atConnect
      (if s.connectionState = ConnectionState.connected then .guard else .markConnecting))
  | .markConnecting => some (s.atConnect (if s.running then .storeConnecting else .closeOld))
  | .storeConnecting => some ((s.store .connecting).atConnect .closeOld)
  | .closeOld => some ({ s with socketOpen := false }.atConnect .create)
  | .create => some ({ s with socketOpen := ok }.atConnect .dial)
  | .dial => some (s.atConnect (if s.socketOpen ∧ ok then .join else .markFailed))
  | .join => s.joinReader.map fun s => s.atConnect .markConnected
  | .markConnected => some (s.atConnect (if s.running then .storeConnected else .raise))
  | .storeConnected => some ((s.store .connected).atConnect .raise)
  | .raise => some ({ s with reading := true }.atConnect .spawn)
  | .spawn => some ((s.atReader .guard).atConnect .guard)
  | .markFailed => some (s.atConnect (if s.running then .storeFailed else .guard))
  | .storeFailed => some ((s.store .disconnected).atConnect .guard)
  | .exited => none

/-- A statement of `start()` or `stop()` at `pc`. -/
def controlStep (s : TcpRadarClient) (pc : ControlPc) : Option TcpRadarClient :=
  match pc with
  | .idle => none
  | .startRun => some ({ s with running := true, attempted := false }.atControl .startSpawn)
  | .startSpawn => some ((s.atConnect .guard).atControl .startNotify)
  | .startNotify => some (s.notify.atControl .startTimer)
  | .startTimer => some ({ s with timer := .on }.atControl .idle)
  | .stopTimer =>
    if s.timer = .checking ∨ s.timer = .notifying then none
    else some ({ s with timer := .off }.atControl .stopRun)
  | .stopRun => some ({ s with running := false }.atControl .stopClose)
  | .stopClose => some ({ s with socketOpen := false }.atControl .stopNotify)
  | .stopNotify => some (s.notify.atControl .stopJoinConnect)
  | .stopJoinConnect =>
    if s.connectThread = none ∨ s.connectThread = some .exited then
      some ({ s with connectThread := none }.atControl .stopLower)
    else none
  | .stopLower => some ({ s with reading := false }.atControl .stopJoinReader)
  | .stopJoinReader => s.joinReader.map fun s => s.atControl .idle

/-! ## Actions -/

/-- A thread takes a step, or the user makes a call; calls are not made at once. -/
inductive Action where
  /-- The user calls `start()`. -/
  | start
  /-- The user calls `stop()`. -/
  | stop
  /-- The call in progress executes a statement. -/
  | control
  | connect (ok : Bool)
  | reader (result : ReadResult)
  /-- The wait of the connect thread returns without a notification. -/
  | spuriousWake
  /-- The timer calls `connection_check_handler`, which tests `running`. -/
  | tick
  /-- The handler tests the state. -/
  | timerCheck
  | timerNotify
  /-- A call of `send()` tests `running`. -/
  | sendCheck
  /-- It tests the state. -/
  | sendCheckState
  | sendDone (failed : Bool)
  /-- A call of `send()` that has failed tests `running`. -/
  | sendFailed
  /-- It sets the state. -/
  | sendMark
deriving DecidableEq, Repr

/-- A thread that does not exist, or waits, takes no step. -/
def step (s : TcpRadarClient) : Action → Option TcpRadarClient
  | .start =>
    if s.control ≠ .idle then none
    else some (if s.running then s else s.atControl .startRun)
  | .stop =>
    if s.control ≠ .idle then none
    else some (if ¬ s.running then s else s.atControl .stopTimer)
  | .control => s.controlStep s.control
  | .connect ok => s.connectThread.bind (s.connectStep ok)
  | .reader result => s.reader.bind (s.readerStep result)
  | .spuriousWake =>
    if s.connectThread = some .waiting then some (s.atConnect .woken) else none
  | .tick =>
    if s.timer ≠ .on then none
    else some { s with timer := if s.running then .checking else .notifying }
  | .timerCheck =>
    if s.timer ≠ .checking then none
    else some { s with
      timer := if s.connectionState ≠ ConnectionState.disconnected then .on else .notifying }
  | .timerNotify =>
    if s.timer ≠ .notifying then none else some { s.notify with timer := .on }
  | .sendCheck =>
    some { s with checkingSends := if s.running then s.checkingSends + 1 else s.checkingSends }
  | .sendCheckState =>
    if s.checkingSends = 0 then none
    else some { s with
      checkingSends := s.checkingSends - 1
      sending :=
        if s.connectionState ≠ ConnectionState.connected then s.sending else s.sending + 1 }
  | .sendDone failed =>
    if s.sending = 0 then none
    else some { s with
      sending := s.sending - 1
      failedSends := if failed then s.failedSends + 1 else s.failedSends }
  | .sendFailed =>
    if s.failedSends = 0 then none
    else some { s with
      failedSends := s.failedSends - 1
      markingSends := if s.running then s.markingSends + 1 else s.markingSends }
  | .sendMark =>
    if s.markingSends = 0 then none
    else some { s.store .disconnected with markingSends := s.markingSends - 1 }

/-! ## What a step can do -/

variable {s s' : TcpRadarClient}

/-- The steps, by the thread that moves. `aside` are those that touch nothing but the timer
    and the calls of `send()`. -/
inductive Moves (s : TcpRadarClient) : Action → TcpRadarClient → Prop where
  | call {a : Action} {pc : ControlPc} : s.control = .idle →
      (pc = .startRun ∧ s.running = false ∨ pc = .stopTimer ∧ s.running = true) →
      Moves s a (s.atControl pc)
  | control {s' : TcpRadarClient} : s.controlStep s.control = some s' → Moves s .control s'
  | connect {ok : Bool} {pc : ConnectPc} {s' : TcpRadarClient} : s.connectThread = some pc →
      s.connectStep ok pc = some s' → Moves s (.connect ok) s'
  | reader {result : ReadResult} {pc : ReaderPc} {s' : TcpRadarClient} : s.reader = some pc →
      s.readerStep result pc = some s' → Moves s (.reader result) s'
  | woken {a : Action} {timer : TimerPc} : s.connectThread = some .waiting →
      Moves s a { s.atConnect .woken with timer := timer }
  | aside {a : Action} {timer : TimerPc} {checkingSends sending failedSends markingSends : Nat} :
      Moves s a { s with
        timer := timer
        checkingSends := checkingSends
        sending := sending
        failedSends := failedSends
        markingSends := markingSends }
  | mark {markingSends : Nat} : s.markingSends ≠ 0 →
      Moves s .sendMark { s.store .disconnected with markingSends := markingSends }

theorem notify_of_waiting (h : s.connectThread = some .waiting) :
    s.notify = s.atConnect .woken := by
  unfold notify
  rw [if_pos h]
  rfl

theorem notify_of_not_waiting (h : s.connectThread ≠ some .waiting) : s.notify = s := by
  unfold notify
  rw [if_neg h]

theorem step_moves {a : Action} (h : s.step a = some s') : Moves s a s' := by
  cases a with
  | start =>
    simp only [step] at h
    split at h
    · cases h
    · rename_i hidle
      cases h
      split
      · exact .aside
      · rename_i hrun
        exact .call (Decidable.not_not.mp hidle) (Or.inl ⟨rfl, Bool.eq_false_iff.mpr hrun⟩)
  | stop =>
    simp only [step] at h
    split at h
    · cases h
    · rename_i hidle
      cases h
      split
      · exact .aside
      · rename_i hrun
        exact .call (Decidable.not_not.mp hidle) (Or.inr ⟨rfl, Decidable.not_not.mp hrun⟩)
  | control => exact .control h
  | connect ok =>
    obtain ⟨pc, hpc, h⟩ := Option.bind_eq_some_iff.mp h
    exact .connect hpc h
  | reader result =>
    obtain ⟨pc, hpc, h⟩ := Option.bind_eq_some_iff.mp h
    exact .reader hpc h
  | spuriousWake =>
    simp only [step] at h
    split at h
    · rename_i hw
      cases h
      exact .woken hw
    · cases h
  | timerNotify =>
    simp only [step] at h
    split at h
    · cases h
    · cases h
      by_cases hw : s.connectThread = some .waiting
      · rw [notify_of_waiting hw]
        exact .woken hw
      · rw [notify_of_not_waiting hw]
        exact .aside
  | sendCheck =>
    cases h
    exact .aside
  | tick | timerCheck | sendCheckState | sendDone | sendFailed =>
    simp only [step] at h
    split at h
    · cases h
    · cases h
      exact .aside
  | sendMark =>
    simp only [step] at h
    split at h
    · cases h
    · rename_i hpos
      cases h
      exact .mark hpos

/-! ## The threads that exist -/

/-- The value of `running` at each statement of `start()` and `stop()`. -/
def runningAt : ControlPc → Option Bool
  | .idle => none
  | .startSpawn | .startNotify | .startTimer | .stopTimer | .stopRun => some true
  | _ => some false

/-- At these statements, and between the calls when `running` is down, there are no threads. -/
def NoThreads (s : TcpRadarClient) : Prop :=
  s.control = .idle ∧ s.running = false ∨ s.control = .startRun ∨ s.control = .startSpawn

/-- The statements where there may be no threads. -/
def noThreadsAt : ControlPc → Bool
  | .idle | .startRun | .startSpawn => true
  | _ => false

theorem NoThreads.at_control (h : s.NoThreads) : noThreadsAt s.control = true := by
  unfold NoThreads at h
  rcases h with ⟨hc, -⟩ | hc | hc
  · rw [hc]
    rfl
  · rw [hc]
    rfl
  · rw [hc]
    rfl

/-- The connect thread has joined the old reader and not yet started the new one. -/
def betweenReaders : ConnectPc → Bool
  | .markConnected | .storeConnected | .raise | .spawn => true
  | _ => false

/-- Which threads there are, by where the calls and the connect thread stand. -/
structure Inv (s : TcpRadarClient) : Prop where
  running : ∀ b, runningAt s.control = some b → s.running = b
  noThreads : s.NoThreads → s.reader = none ∧ s.connectThread = none
  joined : s.control = .stopLower ∨ s.control = .stopJoinReader → s.connectThread = none
  noReader : ∀ pc, s.connectThread = some pc → betweenReaders pc = true → s.reader = none

theorem inv_constructed : constructed.Inv where
  running := by decide
  noThreads := fun _ => ⟨rfl, rfl⟩
  joined := fun _ => rfl
  noReader := nofun

/-- What a statement of the reader does: move on, in the loop or behind it; set the state; lower
    `reading`. With a flag down, moving on leads out of the loop. -/
theorem readerStep_cases {result : ReadResult} {pc : ReaderPc}
    (h : s.readerStep result pc = some s') :
    (∃ pc', s' = s.atReader pc' ∧ pc.leaving = false ∧ pc'.storing = false ∧
      (¬ (s.reading = true ∧ s.running = true) → pc'.toExit < pc.toExit)) ∨
    (∃ pc', s' = s.atReader pc' ∧ pc.leaving = true ∧ pc.storing = false ∧
      pc'.leaving = true ∧ (pc'.storing = true → s.running = true) ∧ pc'.toExit < pc.toExit) ∨
    (∃ pc', s' = (s.store .disconnected).atReader pc' ∧ pc.storing = true ∧
      pc.leaving = true ∧ pc'.leaving = true ∧ pc'.toExit < pc.toExit) ∨
    pc = .lower ∧ s' = { s with reading := false }.atReader .exited := by
  cases pc with
  | exited => cases h
  | lower =>
    cases h
    exact .inr (.inr (.inr ⟨rfl, rfl⟩))
  | storeInHandle | storeMark =>
    cases h
    exact .inr (.inr (.inl ⟨_, rfl, rfl, rfl, rfl, by decide⟩))
  | markInHandle | mark =>
    cases h
    cases hrun : s.running
    · exact .inr (.inl ⟨_, rfl, rfl, rfl, rfl, nofun, by decide⟩)
    · exact .inr (.inl ⟨_, rfl, rfl, rfl, rfl, fun _ => rfl, by decide⟩)
  | _ =>
    refine .inl ?_
    cases result <;> cases h <;>
      first
      | exact ⟨_, rfl, rfl, rfl, fun _ => by decide⟩
      | refine ⟨_, rfl, rfl, ?_, fun hdown => ?_⟩
        · split <;> rfl
        · rw [if_neg hdown]
          decide

/-- A join of the reader clears the handle and does nothing else. -/
theorem joinReader_eq {s' : TcpRadarClient} (h : s.joinReader = some s') :
    (s.reader = none ∨ s.reader = some .exited) ∧ s' = { s with reader := none } := by
  unfold joinReader at h
  split at h
  · rename_i hr
    exact ⟨Or.inl hr, (Option.some.inj h).symm⟩
  · rename_i hr
    exact ⟨Or.inr hr, (Option.some.inj h).symm⟩
  · cases h

/-- The connect thread moves on and leaves the calls of `start()` and `stop()`, the flag
    `running` and the timer alone. -/
theorem connectStep_frame {ok : Bool} {pc : ConnectPc} (h : s.connectStep ok pc = some s') :
    s'.control = s.control ∧ s'.running = s.running ∧ s'.connectThread ≠ none := by
  cases pc with
  | join =>
    obtain ⟨t, ht, rfl⟩ := Option.map_eq_some_iff.mp h
    obtain ⟨-, rfl⟩ := joinReader_eq ht
    exact ⟨rfl, rfl, Option.some_ne_none _⟩
  | waiting | exited => cases h
  | _ =>
    cases h
    exact ⟨rfl, rfl, Option.some_ne_none _⟩

/-- Between the readers there is none. -/
theorem connectStep_noReader {ok : Bool} {pc pc' : ConnectPc}
    (hinv : betweenReaders pc = true → s.reader = none) (h : s.connectStep ok pc = some s')
    (hpc' : s'.connectThread = some pc') (hb : betweenReaders pc' = true) : s'.reader = none := by
  cases pc with
  | join =>
    obtain ⟨t, ht, rfl⟩ := Option.map_eq_some_iff.mp h
    obtain ⟨-, rfl⟩ := joinReader_eq ht
    rfl
  | markConnected | storeConnected | raise =>
    cases h
    exact hinv rfl
  | waiting | exited => cases h
  | guard | woken | check | checkState | markConnecting | dial | markFailed =>
    cases h
    cases hpc'
    split at hb <;> cases hb
  | _ =>
    cases h
    cases hpc'
    cases hb

/-- `Inv` is about the calls, the flag `running` and the two threads. -/
theorem Inv.congr (hinv : s.Inv) (s' : TcpRadarClient) (hcontrol : s'.control = s.control)
    (hrunning : s'.running = s.running) (hreader : s'.reader = s.reader)
    (hconnect : s'.connectThread = s.connectThread) : s'.Inv where
  running := by rw [hcontrol, hrunning]; exact hinv.running
  noThreads := by
    unfold NoThreads
    rw [hcontrol, hrunning, hreader, hconnect]
    exact hinv.noThreads
  joined := by rw [hcontrol, hconnect]; exact hinv.joined
  noReader := by rw [hreader, hconnect]; exact hinv.noReader

/-- The connect thread exists: no statement where there are no threads has been reached. -/
theorem Inv.not_noThreads (hinv : s.Inv) {pc : ConnectPc} (h : s.connectThread = some pc) :
    ¬ s.NoThreads := fun hn => Option.some_ne_none pc (h.symm.trans (hinv.noThreads hn).2)

/-- Waking the connect thread does not put it between the readers. -/
theorem Inv.atWoken (hinv : s.Inv) (h : s.connectThread = some .waiting) :
    (s.atConnect .woken).Inv where
  running := hinv.running
  noThreads := fun hn => absurd hn (hinv.not_noThreads h)
  joined := fun hj => absurd (hinv.joined hj) (by rw [h]; exact Option.some_ne_none _)
  noReader := by
    intro pc hpc hb
    cases hpc
    cases hb

theorem Inv.notify (hinv : s.Inv) : s.notify.Inv := by
  by_cases h : s.connectThread = some .waiting
  · rw [notify_of_waiting h]
    exact hinv.atWoken h
  · rw [notify_of_not_waiting h]
    exact hinv

/-- A call of `start()` or `stop()` goes on to a statement that asks for no more than the one
    before it. -/
theorem Inv.atControl (hinv : s.Inv) {pc : ControlPc}
    (hrunning : ∀ b, runningAt pc = some b → s.running = b)
    (hthreads : (s.atControl pc).NoThreads → s.NoThreads)
    (hjoined : pc = .stopLower ∨ pc = .stopJoinReader →
      s.connectThread = none) : (s.atControl pc).Inv where
  running := hrunning
  noThreads := fun hn => hinv.noThreads (hthreads hn)
  joined := hjoined
  noReader := hinv.noReader

theorem controlStep_inv (hinv : s.Inv) {pc : ControlPc} (hpc : s.control = pc)
    (h : s.controlStep pc = some s') : s'.Inv := by
  have hrun := hinv.running
  rw [hpc] at hrun
  cases pc with
  | idle => cases h
  | startRun =>
    obtain ⟨hr, hc⟩ := hinv.noThreads (Or.inr (Or.inl hpc))
    cases h
    exact ⟨fun b hb => Option.some.inj hb, fun _ => ⟨hr, hc⟩, fun _ => hc,
      fun pc hpc => absurd (hc.symm.trans hpc) nofun⟩
  | startSpawn =>
    cases h
    refine ⟨fun b hb => hrun b hb, fun hn => absurd hn.at_control nofun,
      fun hj => hj.elim nofun nofun, ?_⟩
    intro pc hpc hb
    cases hpc
    cases hb
  | startNotify =>
    cases h
    exact hinv.notify.atControl (fun b hb => hrun b hb) (fun hn => absurd hn.at_control nofun)
      (fun hj => hj.elim nofun nofun)
  | startTimer =>
    cases h
    have hup : s.running = true := hrun true rfl
    refine (hinv.congr { s with timer := .on } rfl rfl rfl rfl).atControl nofun ?_
      (fun hj => hj.elim nofun nofun)
    intro hn
    rcases hn with ⟨-, hdown⟩ | hc | hc
    · exact absurd (hup.symm.trans hdown) nofun
    · cases hc
    · cases hc
  | stopTimer =>
    simp only [controlStep] at h
    split at h
    · cases h
    · cases h
      exact (hinv.congr { s with timer := .off } rfl rfl rfl rfl).atControl
        (fun b hb => hrun b hb) (fun hn => absurd hn.at_control nofun)
        (fun hj => hj.elim nofun nofun)
  | stopRun =>
    cases h
    exact ⟨fun b hb => Option.some.inj hb, fun hn => absurd hn.at_control nofun,
      fun hj => hj.elim nofun nofun, hinv.noReader⟩
  | stopClose =>
    cases h
    exact (hinv.congr { s with socketOpen := false } rfl rfl rfl rfl).atControl
      (fun b hb => hrun b hb) (fun hn => absurd hn.at_control nofun)
      (fun hj => hj.elim nofun nofun)
  | stopNotify =>
    cases h
    exact hinv.notify.atControl (fun b hb => hrun b hb) (fun hn => absurd hn.at_control nofun)
      (fun hj => hj.elim nofun nofun)
  | stopJoinConnect =>
    simp only [controlStep] at h
    split at h
    · cases h
      exact ⟨fun b hb => hrun b hb, fun hn => absurd hn.at_control nofun, fun _ => rfl, nofun⟩
    · cases h
  | stopLower =>
    cases h
    exact (hinv.congr { s with reading := false } rfl rfl rfl rfl).atControl
      (fun b hb => hrun b hb) (fun hn => absurd hn.at_control nofun)
      (fun _ => hinv.joined (Or.inl hpc))
  | stopJoinReader =>
    have hnone := hinv.joined (Or.inr hpc)
    obtain ⟨t, ht, rfl⟩ := Option.map_eq_some_iff.mp h
    obtain ⟨-, rfl⟩ := joinReader_eq ht
    exact ⟨nofun, fun _ => ⟨rfl, hnone⟩, fun hj => hj.elim nofun nofun, fun _ _ _ => rfl⟩

theorem connectStep_inv (hinv : s.Inv) {ok : Bool} {pc : ConnectPc}
    (hpc : s.connectThread = some pc) (h : s.connectStep ok pc = some s') : s'.Inv := by
  obtain ⟨hcontrol, hrunning, -⟩ := connectStep_frame h
  refine ⟨?_, ?_, ?_, fun pc' => connectStep_noReader (hinv.noReader pc hpc) h⟩
  · rw [hcontrol, hrunning]
    exact hinv.running
  · intro hn
    unfold NoThreads at hn
    rw [hcontrol, hrunning] at hn
    exact absurd hn (hinv.not_noThreads hpc)
  · intro hj
    rw [hcontrol] at hj
    exact absurd (hpc.symm.trans (hinv.joined hj)) (Option.some_ne_none pc)

/-- The reader exists, and moves on. -/
theorem Inv.atReader (hinv : s.Inv) {pc : ReaderPc} (hpc : s.reader = some pc)
    (pc' : ReaderPc) : (s.atReader pc').Inv where
  running := hinv.running
  noThreads := fun hn => absurd (hpc.symm.trans (hinv.noThreads hn).1) (Option.some_ne_none pc)
  joined := hinv.joined
  noReader := fun c hc hb => absurd (hpc.symm.trans (hinv.noReader c hc hb)) (Option.some_ne_none pc)

theorem readerStep_inv (hinv : s.Inv) {result : ReadResult} {pc : ReaderPc}
    (hpc : s.reader = some pc) (h : s.readerStep result pc = some s') : s'.Inv := by
  rcases readerStep_cases h with ⟨pc', rfl, -⟩ | ⟨pc', rfl, -⟩ | ⟨pc', rfl, -⟩ | ⟨-, rfl⟩
  · exact hinv.atReader hpc pc'
  · exact hinv.atReader hpc pc'
  · exact (hinv.congr (s.store .disconnected) rfl rfl rfl rfl).atReader hpc pc'
  · exact (hinv.congr { s with reading := false } rfl rfl rfl rfl).atReader hpc _

theorem step_inv {a : Action} (hinv : s.Inv) (h : s.step a = some s') : s'.Inv := by
  cases step_moves h with
  | call hidle hpc =>
    refine hinv.atControl ?_ ?_ ?_
    · intro b hb
      rcases hpc with ⟨rfl, hrun⟩ | ⟨rfl, hrun⟩ <;> exact hrun.trans (Option.some.inj hb)
    · rcases hpc with ⟨rfl, hrun⟩ | ⟨rfl, hrun⟩
      · exact fun _ => Or.inl ⟨hidle, hrun⟩
      · exact fun hn => absurd hn.at_control nofun
    · intro hj
      rcases hpc with ⟨rfl, -⟩ | ⟨rfl, -⟩
      · exact hj.elim nofun nofun
      · exact hj.elim nofun nofun
  | control h => exact controlStep_inv hinv rfl h
  | connect hpc h => exact connectStep_inv hinv hpc h
  | reader hpc h => exact readerStep_inv hinv hpc h
  | woken hw => exact (hinv.atWoken hw).congr _ rfl rfl rfl rfl
  | aside => exact hinv.congr _ rfl rfl rfl rfl
  | mark _ => exact hinv.congr _ rfl rfl rfl rfl

end TcpRadarClient

end Navtech.Network
