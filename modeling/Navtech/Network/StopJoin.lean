/-
  The joins of `Threaded_queue`'s `stop()` and of `Tcp_radar_client::stop()`.

  Both calls lower or raise a flag and notify without the mutex under which the thread they
  join goes into its wait. The connect thread tests `running` before it takes the mutex and
  does not test it again, so it misses a notification that falls between that test and the
  wait. Outside of this window no notification is missed, and the thread that is joined is not
  blocked in a wait (`joins_awake`).
-/
import Navtech.Network.Reconnect
import Navtech.Utility.ThreadedQueueStop

namespace Navtech.Network

open Transition

/-- On the way into the wait, or in it. -/
def ConnectPc.idle : ConnectPc → Bool
  | .enter | .waiting => true
  | _ => false

namespace TcpRadarClient

/-- `stop()` waits for the connect thread, which is not blocked in a wait. -/
def JoinedAwake (s : TcpRadarClient) : Prop :=
  s.control = .stopJoinConnect → s.connectThread ≠ some .waiting

/-- `stop()` does not notify while the connect thread is between the test of `running` and its
    wait. -/
def NotifiesOutsideWindow (s : TcpRadarClient) (a : Action) : Prop :=
  a = .control → s.control = .stopNotify → s.connectThread ≠ some .enter

variable {s s' : TcpRadarClient}

/-- The invariant: a thread that is joined is not even on the way into the wait. -/
def Awake (s : TcpRadarClient) : Prop :=
  s.control = .stopJoinConnect → ∀ pc, s.connectThread = some pc → pc.idle = false

theorem Awake.joinedAwake (h : s.Awake) : s.JoinedAwake := by
  intro hjoin hwaiting
  exact nomatch h hjoin _ hwaiting

theorem Awake.congr (h : s.Awake) (s' : TcpRadarClient) (hcontrol : s'.control = s.control)
    (hconnect : s'.connectThread = s.connectThread) : s'.Awake := by
  unfold Awake
  rw [hcontrol, hconnect]
  exact h

/-- With `running` down, no statement leads on the way into the wait. -/
theorem connectStep_awake {ok : Bool} {pc : ConnectPc} (hdown : s.running = false)
    (hpc : pc.idle = false) (h : s.connectStep ok pc = some s') :
    ∀ pc', s'.connectThread = some pc' → pc'.idle = false := by
  intro pc' hpc'
  cases pc with
  | enter | waiting => exact nomatch hpc
  | exited => exact nomatch h
  | join =>
    obtain ⟨t, ht, rfl⟩ := Option.map_eq_some_iff.mp h
    obtain rfl := Option.some.inj hpc'
    rfl
  | guard | woken =>
    obtain rfl := Option.some.inj h
    obtain rfl := Option.some.inj hpc'
    simp [hdown, ConnectPc.idle]
  | check | checkState | markConnecting | markConnected | markFailed | dial =>
    obtain rfl := Option.some.inj h
    obtain rfl := Option.some.inj hpc'
    split <;> rfl
  | _ =>
    obtain rfl := Option.some.inj h
    obtain rfl := Option.some.inj hpc'
    rfl

/-- The notification wakes a thread that waits. -/
theorem notify_awake (h : s.connectThread ≠ some .enter) :
    ∀ pc, s.notify.connectThread = some pc → pc.idle = false := by
  intro pc hpc
  by_cases hw : s.connectThread = some .waiting
  · rw [notify_of_waiting hw] at hpc
    obtain rfl := Option.some.inj hpc
    rfl
  · rw [notify_of_not_waiting hw] at hpc
    cases pc <;> first | rfl | exact absurd hpc h | exact absurd hpc hw

theorem controlStep_awake (hok : s.NotifiesOutsideWindow .control) {pc : ControlPc}
    (hpc : s.control = pc) (h : s.controlStep pc = some s') : s'.Awake := by
  intro hjoin
  cases pc with
  | stopNotify =>
    obtain rfl := Option.some.inj h
    exact notify_awake (hok rfl hpc)
  | idle => cases h
  | stopTimer =>
    simp only [controlStep] at h
    split at h
    · cases h
    · obtain rfl := Option.some.inj h
      cases hjoin
  | stopJoinConnect =>
    simp only [controlStep] at h
    split at h
    · obtain rfl := Option.some.inj h
      cases hjoin
    · cases h
  | stopJoinReader =>
    obtain ⟨t, ht, rfl⟩ := Option.map_eq_some_iff.mp h
    cases hjoin
  | _ =>
    obtain rfl := Option.some.inj h
    cases hjoin

theorem step_awake {a : Action} (ht : s.Inv) (hinv : s.Awake) (hok : s.NotifiesOutsideWindow a)
    (h : s.step a = some s') : s'.Awake := by
  cases step_moves h with
  | call hidle hpc =>
    intro hjoin
    rcases hpc with ⟨rfl, -⟩ | ⟨rfl, -⟩ <;> exact nomatch hjoin
  | control h => exact controlStep_awake hok rfl h
  | connect hpc h =>
    intro hjoin
    have hcontrol : s.control = .stopJoinConnect := (connectStep_frame h).1.symm.trans hjoin
    have hdown : s.running = false := ht.running false (by rw [hcontrol]; rfl)
    exact connectStep_awake hdown (hinv hcontrol _ hpc) h
  | reader hpc h =>
    rcases readerStep_cases h with ⟨pc', rfl, -⟩ | ⟨pc', rfl, -⟩ | ⟨pc', rfl, -⟩ | ⟨-, rfl⟩ <;>
      exact hinv.congr _ rfl rfl
  | woken _ =>
    intro _ pc hpc
    obtain rfl := Option.some.inj hpc
    rfl
  | aside => exact hinv.congr _ rfl rfl
  | mark _ => exact hinv.congr _ rfl rfl

theorem reach_awake (h : Reach step NotifiesOutsideWindow constructed s) : s.Awake :=
  h.invariant_of reach_inv nofun fun ht hi hok hs => step_awake ht hi hok hs

end TcpRadarClient

/-! ## Both joins -/

/-- **No lost wake-up.** In the runs in which `stop()` does not notify while the thread it will
    join is on its way into the wait, that thread is not blocked in a wait while it is joined. -/
theorem joins_awake {T : Type} {s : ThreadedQueue.Owned T} {t : TcpRadarClient}
    (hs : Reach ThreadedQueue.Owned.step ThreadedQueue.Owned.NotifiesOutsideWindow .started s)
    (ht : Reach TcpRadarClient.step TcpRadarClient.NotifiesOutsideWindow .constructed t) :
    s.JoinedAwake ∧ t.JoinedAwake :=
  ⟨(ThreadedQueue.Owned.reach_inv hs).joinedAwake, (TcpRadarClient.reach_awake ht).joinedAwake⟩

instance (s : ThreadedQueue.Owned Nat) (a : ThreadedQueue.Owned.Action Nat) :
    Decidable (s.NotifiesOutsideWindow a) :=
  inferInstanceAs (Decidable (_ → _ → _))

instance (s : TcpRadarClient) (a : TcpRadarClient.Action) :
    Decidable (s.NotifiesOutsideWindow a) :=
  inferInstanceAs (Decidable (_ → _ → _))

/-- The worker waits, and is woken by the notification of `stop()`. -/
def stopOfWaitingWorker : List (ThreadedQueue.Owned.Action Nat) :=
  List.replicate 4 (.queue .work) ++ [.stop false] ++ List.replicate 4 .owner

/-- The worker has made its test when `stop()` is called, and waits when it has notified. -/
def stopOfDecidingWorker : List (ThreadedQueue.Owned.Action Nat) :=
  List.replicate 3 (.queue .work) ++ [.stop false] ++ List.replicate 4 .owner ++ [.queue .work]

/-- The connect thread waits for a next attempt when `stop()` notifies. -/
def stopOfWaitingThread : List TcpRadarClient.Action :=
  TcpRadarClient.connectedSession ++ [.stop] ++ List.replicate 4 .control

/-- It has tested `running` when `stop()` is called, and waits when `stop()` has notified. -/
def stopOfEnteringThread : List TcpRadarClient.Action :=
  TcpRadarClient.connectedSession.dropLast ++ [.stop] ++ List.replicate 4 .control ++
    [.connect true]

theorem joins_awake_woken :
    ∃ (s : ThreadedQueue.Owned Nat) (t : TcpRadarClient),
      (s.owner = .join ∧ t.control = .stopJoinConnect) ∧ s.JoinedAwake ∧ t.JoinedAwake := by
  obtain ⟨s, hs, hjoin⟩ := exists_reach ThreadedQueue.Owned.step
    ThreadedQueue.Owned.NotifiesOutsideWindow .started stopOfWaitingWorker
    (fun s => s.owner = .join) (by decide)
  obtain ⟨t, ht, htjoin⟩ := exists_reach TcpRadarClient.step
    TcpRadarClient.NotifiesOutsideWindow .constructed stopOfWaitingThread
    (fun t => t.control = .stopJoinConnect) (by decide)
  exact ⟨s, t, ⟨hjoin, htjoin⟩, joins_awake hs ht⟩

/-- Both calls can join a thread that is blocked in a wait, with nobody left to notify it. -/
theorem joins_may_hang :
    (∃ s : ThreadedQueue.Owned Nat, Reach ThreadedQueue.Owned.step always .started s ∧
      s.queue.calls = [] ∧ s.queue.stopping = true ∧ ¬ s.JoinedAwake) ∧
    (∃ s : TcpRadarClient, Reach TcpRadarClient.step always .constructed s ∧
      s.timer = .off ∧ ¬ s.JoinedAwake) := by
  obtain ⟨s, hs, hcalls, hstopping, hjoin, hwaiting⟩ := exists_reach ThreadedQueue.Owned.step
    always .started stopOfDecidingWorker (fun s => s.queue.calls = [] ∧
      s.queue.stopping = true ∧ s.owner = .join ∧ s.queue.worker = .waiting) (by decide)
  obtain ⟨t, ht, htimer, htjoin, htwaiting⟩ := exists_reach TcpRadarClient.step always
    .constructed stopOfEnteringThread (fun t => t.timer = .off ∧
      t.control = .stopJoinConnect ∧ t.connectThread = some .waiting) (by decide)
  exact ⟨⟨s, hs, hcalls, hstopping, fun hawake => hawake hjoin hwaiting⟩,
    ⟨t, ht, htimer, fun hawake => hawake htjoin htwaiting⟩⟩

end Navtech.Network
