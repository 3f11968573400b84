/-
  Is the client back in its initial state when `stop()` has returned?

  Its threads are gone, by `Inv`. The stored connection state is what it was when `stop()`
  lowered `running`, or what a thread stores that has tested `running` before; and the socket is
  closed unless `connect()` creates one behind the close in `stop()`. In every run in which
  `stop()` lowers `running` while the state is disconnected, or is about to be, and no other state
  is about to be stored, and no socket is created behind its close, the client is restartable
  (`restartable`). In the most common run it is not: `stop()` leaves the state connected behind,
  and the next connection attempt returns early (`not_restartable`).
-/
import Navtech.Network.Reconnect

namespace Navtech.Network.TcpRadarClient

open Transition

variable {s s' : TcpRadarClient}

/-- `stop()` has closed the socket and not yet joined the connect thread. -/
def closedByStop : ControlPc → Bool
  | .stopNotify | .stopJoinConnect => true
  | _ => false

/-- The reader or the connect thread has tested `running` and will store the state disconnected. -/
def StoresDisconnected (s : TcpRadarClient) : Prop :=
  (∃ pc, s.reader = some pc ∧ pc.storing = true) ∨ s.connectThread = some .storeFailed

/-- The connect thread has tested `running` and will store another state. -/
def StoresOther (s : TcpRadarClient) : Prop :=
  s.connectThread = some .storeConnecting ∨ s.connectThread = some .storeConnected

/-- The state is disconnected, or about to be, and will not be another one before the threads
    have left. -/
def EndsDisconnected (s : TcpRadarClient) : Prop :=
  (s.connectionState = .disconnected ∨ s.StoresDisconnected) ∧ ¬ s.StoresOther

/-- `stop()` lowers `running` only where the state ends disconnected, and no socket is created
    between the close in `stop()` and the join of the connect thread. -/
def StopsCleanly (s : TcpRadarClient) (a : Action) : Prop :=
  (a = .control → s.control = .stopRun → s.EndsDisconnected) ∧
    (a = .connect true → s.connectThread = some .create → closedByStop s.control = false)

instance (s : TcpRadarClient) : Decidable s.StoresDisconnected :=
  decidable_of_iff (s.reader.any ReaderPc.storing = true ∨ s.connectThread = some .storeFailed)
    (or_congr_left (Option.any_eq_true _ _))

instance (s : TcpRadarClient) : Decidable s.StoresOther :=
  inferInstanceAs (Decidable (_ ∨ _))

instance (s : TcpRadarClient) : Decidable s.EndsDisconnected :=
  inferInstanceAs (Decidable ((_ ∨ _) ∧ ¬ _))

instance (s : TcpRadarClient) (a : Action) : Decidable (s.StopsCleanly a) :=
  inferInstanceAs (Decidable (_ ∧ _))

/-- `connect()` has passed its test of the state. -/
def behindCheck : ConnectPc → Bool
  | .guard | .enter | .waiting | .woken | .check | .exited => false
  | _ => true

/-- Between its close in `stop()` and the next connect thread the socket stays closed. -/
def Closed (s : TcpRadarClient) : Prop :=
  s.NoThreads ∨ closedByStop s.control = true ∨ s.control = .stopLower ∨
    s.control = .stopJoinReader

/-- The statements where the socket may have to stay closed. -/
def closedAt (pc : ControlPc) : Bool :=
  noThreadsAt pc || closedByStop pc || pc == .stopLower || pc == .stopJoinReader

theorem Closed.at_control (h : s.Closed) : closedAt s.control = true := by
  unfold Closed at h
  rcases h with h | h | h | h
  · unfold closedAt
    rw [h.at_control]
    rfl
  · unfold closedAt
    rw [h, Bool.or_true]
    rfl
  · rw [h]
    rfl
  · rw [h]
    rfl

structure RestartInv (s : TcpRadarClient) : Prop where
  disconnected : s.running = false → s.EndsDisconnected
  closed : s.Closed → s.socketOpen = false
  attempted : ∀ pc, s.connectThread = some pc → behindCheck pc = true → s.attempted = true
  fresh : s.attempted = false → s.connectionState ≠ .connected

theorem restartInv_constructed : constructed.RestartInv where
  disconnected := fun _ => ⟨Or.inl rfl, by decide⟩
  closed := fun _ => rfl
  attempted := nofun
  fresh := fun _ => nofun

/-! ## The state that `stop()` leaves behind -/

/-- The state disconnected is stored. -/
theorem EndsDisconnected.store (h : s.EndsDisconnected) :
    (s.store .disconnected).EndsDisconnected := ⟨Or.inl rfl, h.2⟩

/-- A reader that is not about to store goes on. -/
theorem EndsDisconnected.atReader (h : s.EndsDisconnected) {pc : ReaderPc}
    (hpc : s.reader = some pc) (hstoring : pc.storing = false) (pc' : ReaderPc) :
    (s.atReader pc').EndsDisconnected := by
  refine ⟨?_, h.2⟩
  rcases h.1 with hstate | ⟨c, hc, hs⟩ | hfailed
  · exact Or.inl hstate
  · cases hpc.symm.trans hc
    exact absurd (hstoring.symm.trans hs) Bool.false_ne_true
  · exact Or.inr (Or.inr hfailed)

/-- A connect thread that is not about to store goes on. -/
theorem EndsDisconnected.atConnect (h : s.EndsDisconnected) {pc pc' : ConnectPc}
    (hpc : s.connectThread = some pc) (hfailed : pc ≠ .storeFailed)
    (hother : pc' ≠ .storeConnecting ∧ pc' ≠ .storeConnected) :
    (s.atConnect pc').EndsDisconnected := by
  constructor
  · rcases h.1 with hstate | hreader | hfail
    · exact Or.inl hstate
    · exact Or.inr (Or.inl hreader)
    · exact absurd (Option.some.inj (hpc.symm.trans hfail)) hfailed
  · rintro (hc | hc)
    · exact hother.1 (Option.some.inj hc)
    · exact hother.2 (Option.some.inj hc)

/-- Without threads nobody is about to store. -/
theorem EndsDisconnected.disconnected (h : s.EndsDisconnected) (hreader : s.reader = none)
    (hconnect : s.connectThread = none) : s.connectionState = .disconnected := by
  rcases h.1 with hstate | ⟨pc, hpc, -⟩ | hfail
  · exact hstate
  · exact absurd (hreader.symm.trans hpc) (Option.some_ne_none pc).symm
  · exact absurd (hconnect.symm.trans hfail) (Option.some_ne_none _).symm

/-- A reader that has been joined was not about to store. -/
theorem EndsDisconnected.joined (h : s.EndsDisconnected)
    (hreader : s.reader = none ∨ s.reader = some .exited) :
    ({ s with reader := none } : TcpRadarClient).EndsDisconnected := by
  refine ⟨?_, h.2⟩
  rcases h.1 with hstate | ⟨pc, hpc, hs⟩ | hfail
  · exact Or.inl hstate
  · rcases hreader with hnone | hexited
    · cases hnone.symm.trans hpc
    · cases hexited.symm.trans hpc
      cases hs
  · exact Or.inr (Or.inr hfail)

/-! ## The steps -/

theorem RestartInv.congr (hinv : s.RestartInv) (s' : TcpRadarClient)
    (hends : s.EndsDisconnected → s'.EndsDisconnected)
    (hstate : s'.connectionState = s.connectionState ∨ s'.connectionState ≠ .connected)
    (hrunning : s'.running = s.running)
    (hsocket : s'.socketOpen = s.socketOpen) (hconnect : s'.connectThread = s.connectThread)
    (hcontrol : s'.control = s.control) (hattempted : s'.attempted = s.attempted) :
    s'.RestartInv where
  disconnected := by
    rw [hrunning]
    exact fun hdown => hends (hinv.disconnected hdown)
  closed := by
    unfold Closed NoThreads
    rw [hsocket, hcontrol, hrunning]
    exact hinv.closed
  attempted := by
    rw [hconnect, hattempted]
    exact hinv.attempted
  fresh := by
    rw [hattempted]
    rcases hstate with hsame | hother
    · rw [hsame]
      exact hinv.fresh
    · exact fun _ => hother

/-- The connect thread goes on. -/
theorem RestartInv.atConnect (hinv : s.RestartInv) {pc : ConnectPc}
    (hends : s.running = false → (s.atConnect pc).EndsDisconnected)
    (hpc : behindCheck pc = true → s.attempted = true) : (s.atConnect pc).RestartInv where
  disconnected := hends
  closed := hinv.closed
  attempted := by
    intro c hc hb
    cases hc
    exact hpc hb
  fresh := hinv.fresh

/-- It goes on from a statement that does not store to one that does not either. -/
theorem RestartInv.goesOn (hinv : s.RestartInv) {pc pc' : ConnectPc}
    (hpc : s.connectThread = some pc) (hfailed : pc ≠ .storeFailed)
    (hother : s.running = false → pc' ≠ .storeConnecting ∧ pc' ≠ .storeConnected)
    (hattempted : behindCheck pc' = true → s.attempted = true) :
    (s.atConnect pc').RestartInv :=
  hinv.atConnect
    (fun hdown => (hinv.disconnected hdown).atConnect hpc hfailed (hother hdown)) hattempted

theorem RestartInv.notify (hinv : s.RestartInv) : s.notify.RestartInv := by
  by_cases h : s.connectThread = some .waiting
  · rw [notify_of_waiting h]
    exact hinv.goesOn h nofun (fun _ => ⟨nofun, nofun⟩) nofun
  · rw [notify_of_not_waiting h]
    exact hinv

theorem readerStep_restartInv (hinv : s.RestartInv) {result : ReadResult} {pc : ReaderPc}
    (hpc : s.reader = some pc) (h : s.readerStep result pc = some s') : s'.RestartInv := by
  rcases readerStep_cases h with ⟨pc', rfl, hin, -⟩ | ⟨pc', rfl, -, hstoring, -⟩ |
    ⟨pc', rfl, -⟩ | ⟨rfl, rfl⟩
  · have hstoring : pc.storing = false := by
      cases pc <;> first | rfl | cases hin
    exact hinv.congr _ (fun he => he.atReader hpc hstoring pc') (Or.inl rfl) rfl rfl rfl rfl rfl
  · exact hinv.congr _ (fun he => he.atReader hpc hstoring pc') (Or.inl rfl) rfl rfl rfl rfl rfl
  · exact hinv.congr _ (fun he => ⟨Or.inl rfl, he.2⟩) (Or.inr nofun) rfl rfl rfl rfl rfl
  · exact hinv.congr _ (fun he => he.atReader hpc rfl .exited) (Or.inl rfl) rfl rfl rfl rfl rfl

/-- The connect thread does not exist where the socket has to stay closed, but between the
    close and the join in `stop()`. -/
theorem closedByStop_of_closed (ht : s.Inv) {pc : ConnectPc} (hpc : s.connectThread = some pc)
    (h : s.Closed) : closedByStop s.control = true := by
  rcases h with h | h | h | h
  · exact absurd h (ht.not_noThreads hpc)
  · exact h
  · exact absurd (hpc.symm.trans (ht.joined (Or.inl h))) (Option.some_ne_none pc)
  · exact absurd (hpc.symm.trans (ht.joined (Or.inr h))) (Option.some_ne_none pc)

theorem connectStep_restartInv (hinv : s.RestartInv) (ht : s.Inv) {ok : Bool} {pc : ConnectPc}
    (hpc : s.connectThread = some pc)
    (hok : ok = true → pc = .create → closedByStop s.control = false)
    (h : s.connectStep ok pc = some s') : s'.RestartInv := by
  have hatt : behindCheck pc = true → s.attempted = true := hinv.attempted pc hpc
  have hnone : betweenReaders pc = true → s.reader = none := ht.noReader pc hpc
  cases pc with
  | waiting | exited => cases h
  | guard | woken =>
    cases h
    split <;> exact hinv.goesOn hpc nofun (fun _ => ⟨nofun, nofun⟩) nofun
  | enter =>
    cases h
    exact hinv.goesOn hpc nofun (fun _ => ⟨nofun, nofun⟩) nofun
  | check =>
    cases h
    have hinv' : ({ s with attempted := true } : TcpRadarClient).RestartInv :=
      ⟨hinv.disconnected, hinv.closed, fun _ _ _ => rfl, fun h => absurd h.symm Bool.false_ne_true⟩
    split <;> exact hinv'.goesOn hpc nofun (fun _ => ⟨nofun, nofun⟩) fun _ => rfl
  | checkState =>
    cases h
    split <;> exact hinv.goesOn hpc nofun (fun _ => ⟨nofun, nofun⟩) fun _ => hatt rfl
  | markConnecting | markConnected | markFailed =>
    cases h
    split
    · rename_i hup
      refine hinv.goesOn hpc nofun (fun hdown => ?_) fun _ => hatt rfl
      exact absurd (hdown.symm.trans hup) Bool.false_ne_true
    · exact hinv.goesOn hpc nofun (fun _ => ⟨nofun, nofun⟩) fun _ => hatt rfl
  | storeConnecting =>
    cases h
    have hup : s.attempted = true := hatt rfl
    exact ⟨fun hdown => absurd (Or.inl hpc) (hinv.disconnected hdown).2, hinv.closed,
      fun _ _ _ => hup, fun _ => nofun⟩
  | storeConnected =>
    cases h
    have hup : s.attempted = true := hatt rfl
    exact ⟨fun hdown => absurd (Or.inr hpc) (hinv.disconnected hdown).2, hinv.closed,
      fun _ _ _ => hup, fun h => absurd (hup.symm.trans h) nofun⟩
  | storeFailed =>
    cases h
    refine ⟨fun _ => ⟨Or.inl rfl, ?_⟩, hinv.closed, ?_, fun _ => nofun⟩
    · rintro (hc | hc) <;> cases hc
    · intro c hc hb
      cases hc
      cases hb
  | closeOld =>
    cases h
    have hinv' : ({ s with socketOpen := false } : TcpRadarClient).RestartInv :=
      ⟨hinv.disconnected, fun _ => rfl, hinv.attempted, hinv.fresh⟩
    exact hinv'.goesOn hpc nofun (fun _ => ⟨nofun, nofun⟩) fun _ => hatt rfl
  | create =>
    cases h
    have hinv' : ({ s with socketOpen := ok } : TcpRadarClient).RestartInv := by
      refine ⟨hinv.disconnected, fun hclosed => ?_, hinv.attempted, hinv.fresh⟩
      -- a socket that is created would be created behind the close in `stop()`
      cases ok with
      | false => rfl
      | true =>
        have hbehind := closedByStop_of_closed ht hpc hclosed
        exact absurd ((hok rfl rfl).symm.trans hbehind) Bool.false_ne_true
    exact hinv'.goesOn hpc nofun (fun _ => ⟨nofun, nofun⟩) fun _ => hatt rfl
  | dial =>
    cases h
    split <;> exact hinv.goesOn hpc nofun (fun _ => ⟨nofun, nofun⟩) fun _ => hatt rfl
  | join =>
    obtain ⟨t, hj, rfl⟩ := Option.map_eq_some_iff.mp h
    obtain ⟨hreader, rfl⟩ := joinReader_eq hj
    have hinv' := hinv.congr { s with reader := none } (fun he => he.joined hreader) (Or.inl rfl)
      rfl rfl rfl rfl rfl
    exact hinv'.goesOn hpc nofun (fun _ => ⟨nofun, nofun⟩) fun _ => hatt rfl
  | raise =>
    cases h
    have hinv' := hinv.congr { s with reading := true } id (Or.inl rfl) rfl rfl rfl rfl rfl
    exact hinv'.goesOn hpc nofun (fun _ => ⟨nofun, nofun⟩) fun _ => hatt rfl
  | spawn =>
    cases h
    -- there is no reader yet, and the new one is at its guard
    have hinv' := hinv.congr (s.atReader .guard) (fun he => ⟨?_, he.2⟩) (Or.inl rfl)
      rfl rfl rfl rfl rfl
    · exact hinv'.goesOn hpc nofun (fun _ => ⟨nofun, nofun⟩) nofun
    · rcases he.1 with hstate | ⟨c, hc, -⟩ | hfail
      · exact Or.inl hstate
      · exact absurd ((hnone rfl).symm.trans hc) (Option.some_ne_none c).symm
      · exact Or.inr (Or.inr hfail)

/-- A call of `start()` or `stop()` goes on to a statement where the socket need not be closed,
    or is. -/
theorem RestartInv.atControl (hinv : s.RestartInv) {pc : ControlPc}
    (hclosed : (s.atControl pc).Closed → s.socketOpen = false) :
    (s.atControl pc).RestartInv where
  disconnected := hinv.disconnected
  closed := hclosed
  attempted := hinv.attempted
  fresh := hinv.fresh

theorem controlStep_restartInv (hinv : s.RestartInv) (ht : s.Inv) {pc : ControlPc}
    (hpc : s.control = pc) (hok : pc = .stopRun → s.EndsDisconnected)
    (h : s.controlStep pc = some s') : s'.RestartInv := by
  have hrun := ht.running
  rw [hpc] at hrun
  cases pc with
  | idle => cases h
  | startRun =>
    obtain ⟨hreader, hnone⟩ := ht.noThreads (Or.inr (Or.inl hpc))
    have hstate := (hinv.disconnected (hrun false rfl)).disconnected hreader hnone
    cases h
    refine ⟨fun h => absurd h.symm Bool.false_ne_true, fun _ => ?_, ?_, fun _ => ?_⟩
    · exact hinv.closed (Or.inl (Or.inr (Or.inl hpc)))
    · intro c hc
      exact absurd (hc.symm.trans hnone) (Option.some_ne_none c)
    · show s.connectionState ≠ _
      rw [hstate]
      decide
  | startSpawn =>
    cases h
    have hinv' : (s.atConnect .guard).RestartInv :=
      hinv.atConnect (fun hdown => absurd (hdown.symm.trans (hrun true rfl)) Bool.false_ne_true)
        nofun
    exact hinv'.atControl fun hc => absurd hc.at_control Bool.false_ne_true
  | startNotify =>
    cases h
    exact hinv.notify.atControl fun hc => absurd hc.at_control Bool.false_ne_true
  | startTimer =>
    have hup : s.running = true := hrun true rfl
    cases h
    have hinv' := hinv.congr { s with timer := .on } id (Or.inl rfl) rfl rfl rfl rfl rfl
    refine hinv'.atControl ?_
    intro hc
    rcases hc with (⟨-, hdown⟩ | hc | hc) | hc | hc | hc
    · exact absurd (hdown.symm.trans hup) Bool.false_ne_true
    all_goals cases hc
  | stopTimer =>
    simp only [controlStep] at h
    split at h
    · cases h
    · cases h
      have hinv' := hinv.congr { s with timer := .off } id (Or.inl rfl) rfl rfl rfl rfl rfl
      exact hinv'.atControl fun hc => absurd hc.at_control Bool.false_ne_true
  | stopRun =>
    cases h
    exact ⟨fun _ => hok rfl, fun hc => absurd hc.at_control Bool.false_ne_true, hinv.attempted,
      hinv.fresh⟩
  | stopClose =>
    cases h
    exact ⟨hinv.disconnected, fun _ => rfl, hinv.attempted, hinv.fresh⟩
  | stopNotify =>
    cases h
    exact hinv.notify.atControl fun _ => hinv.closed (Or.inr (Or.inl (by rw [hpc]; rfl)))
  | stopJoinConnect =>
    have hclosed := hinv.closed (Or.inr (Or.inl (by rw [hpc]; rfl)))
    simp only [controlStep] at h
    split at h
    · rename_i hleft
      cases h
      refine ⟨fun hdown => ?_, fun _ => hclosed, fun _ hc => absurd hc.symm (Option.some_ne_none _),
        hinv.fresh⟩
      -- a connect thread that has left was not about to store
      refine ⟨(hinv.disconnected hdown).1.imp_right (Or.imp_right fun hfail => ?_), ?_⟩
      · rcases hleft with hnone | hexited
        · cases hnone.symm.trans hfail
        · cases hexited.symm.trans hfail
      · rintro (hc | hc) <;> cases hc
    · cases h
  | stopLower =>
    have hclosed := hinv.closed (Or.inr (Or.inr (Or.inl hpc)))
    cases h
    have hinv' := hinv.congr { s with reading := false } id (Or.inl rfl) rfl rfl rfl rfl rfl
    exact hinv'.atControl fun _ => hclosed
  | stopJoinReader =>
    have hclosed := hinv.closed (Or.inr (Or.inr (Or.inr hpc)))
    obtain ⟨t, hj, rfl⟩ := Option.map_eq_some_iff.mp h
    obtain ⟨hreader, rfl⟩ := joinReader_eq hj
    have hinv' := hinv.congr { s with reader := none } (fun he => he.joined hreader) (Or.inl rfl)
      rfl rfl rfl rfl rfl
    exact hinv'.atControl fun _ => hclosed

theorem step_restartInv {a : Action} (ht : s.Inv) (hinv : s.RestartInv)
    (hok : s.StopsCleanly a) (h : s.step a = some s') : s'.RestartInv := by
  cases step_moves h with
  | call hidle hpc =>
    refine hinv.atControl ?_
    rcases hpc with ⟨rfl, hdown⟩ | ⟨rfl, -⟩
    · exact fun _ => hinv.closed (Or.inl (Or.inl ⟨hidle, hdown⟩))
    · exact fun hc => absurd hc.at_control nofun
  | control h => exact controlStep_restartInv hinv ht rfl (hok.1 rfl) h
  | connect hpc h =>
    refine connectStep_restartInv hinv ht hpc (fun ho hp => ?_) h
    subst ho hp
    exact hok.2 rfl hpc
  | reader hpc h => exact readerStep_restartInv hinv hpc h
  | woken hw =>
    have hinv' : (s.atConnect .woken).RestartInv :=
      hinv.goesOn hw nofun (fun _ => ⟨nofun, nofun⟩) nofun
    exact hinv'.congr _ id (Or.inl rfl) rfl rfl rfl rfl rfl
  | aside => exact hinv.congr _ id (Or.inl rfl) rfl rfl rfl rfl rfl
  | mark _ =>
    exact hinv.congr _ (fun he => ⟨Or.inl rfl, he.2⟩) (Or.inr nofun) rfl rfl rfl rfl rfl

theorem reach_restartInv (h : Reach step StopsCleanly constructed s) : s.RestartInv :=
  h.invariant_of reach_inv restartInv_constructed fun ht hi hok hs => step_restartInv ht hi hok hs

/-- A `connect()` that finds a state other than connected opens a socket. -/
theorem connect_opens_socket (hpc : s.connectThread = some .check)
    (hstate : s.connectionState ≠ .connected) :
    ∃ n s', n ≤ 6 ∧ run step always s (List.replicate n (.connect true)) = some s' ∧
      s'.connectThread = some .dial ∧ s'.socketOpen = true := by
  obtain ⟨state, reading, running, socketOpen, reader, connectThread, control, timer,
    checkingSends, sending, failedSends, markingSends, attempted⟩ := s
  obtain rfl : connectThread = some .check := hpc
  cases running with
  | false => exact ⟨4, _, by decide, rfl, rfl, rfl⟩
  | true =>
    cases state with
    | connected => exact absurd rfl hstate
    | disconnected | connecting => exact ⟨6, _, by decide, rfl, rfl, rfl⟩

/-- **The client is restartable**, in every run in which `stop()` is clean. When `stop()` has
    returned there are no threads, the socket is closed and the stored state is disconnected;
    and the first `connect()` after a `start()` opens a socket. -/
theorem restartable (h : Reach step StopsCleanly constructed s) :
    (s.control = .idle → s.running = false →
      s.reader = none ∧ s.connectThread = none ∧ s.socketOpen = false ∧
        s.connectionState = .disconnected) ∧
    (s.connectThread = some .check → s.attempted = false →
      ∃ n s', n ≤ 6 ∧ run step always s (List.replicate n (.connect true)) = some s' ∧
        s'.connectThread = some .dial ∧ s'.socketOpen = true) := by
  have ht := reach_inv h
  have hinv := reach_restartInv h
  constructor
  · intro hidle hdown
    have hno : s.NoThreads := Or.inl ⟨hidle, hdown⟩
    obtain ⟨hreader, hconnect⟩ := ht.noThreads hno
    exact ⟨hreader, hconnect, hinv.closed (Or.inl hno),
      (hinv.disconnected hdown).disconnected hreader hconnect⟩
  · intro hcheck hfresh
    exact connect_opens_socket hcheck (hinv.fresh hfresh)

/-- `stop()` from its first statement to its last, the connect thread leaving when it is
    woken. -/
def stopCall : List Action :=
  [.stop] ++ List.replicate 4 .control ++ [.connect true] ++ List.replicate 3 .control

/-- `start()`, an attempt that fails, and `stop()`. -/
def failedSession : List Action :=
  [.start, .control, .control, .connect true, .connect true, .control, .control] ++
    List.replicate 7 (.connect true) ++ List.replicate 5 (.connect false) ++ stopCall

theorem restartable_after_failed_session :
    ∃ s, Reach step StopsCleanly constructed s ∧ s.reader = none ∧ s.connectThread = none ∧
      s.socketOpen = false ∧ s.connectionState = .disconnected := by
  obtain ⟨s, hreach, hidle, hdown⟩ := exists_reach step StopsCleanly constructed
    failedSession (fun s => s.control = .idle ∧ s.running = false) (by decide)
  exact ⟨s, hreach, (restartable hreach).1 hidle hdown⟩

/-- `start()`, an attempt that succeeds, and `stop()`, the reader leaving when the flags are
    down. -/
def connectedThenStopped : List Action :=
  connectedSession ++ [.stop] ++ List.replicate 4 .control ++ [.connect true] ++
    List.replicate 2 .control ++ [.reader .nothing, .reader .nothing] ++ [.control]

/-- After the most common session the stored state is still connected. -/
theorem not_restartable :
    ¬ ∀ s, Reach step always constructed s → s.control = .idle → s.running = false →
      s.reader = none ∧ s.connectThread = none ∧ s.socketOpen = false ∧
        s.connectionState = .disconnected := by
  intro h
  obtain ⟨s, hreach, hidle, hdown, hconnected⟩ := exists_reach step always constructed
    connectedThenStopped (fun s => s.control = .idle ∧
      s.running = false ∧ s.connectionState = .connected) (by decide)
  obtain ⟨-, -, -, hstate⟩ := h s hreach hidle hdown
  cases hconnected.symm.trans hstate

end Navtech.Network.TcpRadarClient
