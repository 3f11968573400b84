/-
  Can `connect()` be stuck in the join of the old read thread?

  It is not, as long as the thread it joins is on its way out. The reader marks the state
  disconnected on its own way out only; but `send()` marks it too, when a send fails, and
  leaves `reading` alone. In every run in which failed sends set the state only while no reader
  is in its loop with the flags up, and not while a new reader is being started, the join
  finds the reader on its way out (`joined_reader_leaves`). Without that condition it need not
  (`joined_reader_may_stay`).
-/
import Navtech.Network.TcpRadarClient

namespace Navtech.Network.TcpRadarClient

open Transition

variable {s s' : TcpRadarClient}

/-- The reader is in its loop, on none of its error paths, with the flags up. -/
def ReaderLive (s : TcpRadarClient) : Prop :=
  ∃ pc, s.reader = some pc ∧ pc.leaving = false ∧ s.reading = true ∧ s.running = true

/-- `connect()` has passed its test of the state and not yet joined the old reader, or has
    failed. -/
def attempting : ConnectPc → Bool
  | .markConnecting | .storeConnecting | .closeOld | .create | .dial | .join | .markFailed
  | .storeFailed => true
  | _ => false

/-- The connect thread has marked the state connected and not yet started the new reader. -/
def starting : ConnectPc → Bool
  | .raise | .spawn => true
  | _ => false

/-- A failed send sets the state only while the reader is not live, and no new reader is being
    started. -/
def SendFailsHarmlessly (s : TcpRadarClient) (a : Action) : Prop :=
  a = .sendMark → ¬ s.ReaderLive ∧ ∀ pc, s.connectThread = some pc → starting pc = false

structure ReconnectInv (s : TcpRadarClient) : Prop where
  /-- While the reader is live the state is connected. -/
  connected : s.ReaderLive → s.connectionState = .connected
  /-- While an attempt is made the reader is not live. -/
  attempt : ∀ pc, s.connectThread = some pc → attempting pc = true → ¬ s.ReaderLive
  /-- While a new reader is being started the state is connected. -/
  start : ∀ pc, s.connectThread = some pc → starting pc = true → s.running = true →
    s.connectionState = .connected

theorem reconnectInv_constructed : constructed.ReconnectInv where
  connected := fun ⟨_, h, _⟩ => absurd h nofun
  attempt := nofun
  start := nofun

/-- Whether the reader is live depends on the reader and the flags alone. -/
theorem ReaderLive.congr (h : s'.ReaderLive) (hreader : s'.reader = s.reader)
    (hreading : s'.reading = s.reading) (hrunning : s'.running = s.running) : s.ReaderLive := by
  obtain ⟨pc, h⟩ := h
  rw [hreader, hreading, hrunning] at h
  exact ⟨pc, h⟩

theorem ReaderLive.running (h : s.ReaderLive) : s.running = true := by
  obtain ⟨-, -, -, -, hrun⟩ := h
  exact hrun

/-- No reader, no live reader. -/
theorem not_readerLive_of_none (h : s.reader = none) : ¬ s.ReaderLive :=
  fun ⟨_, hpc, _⟩ => Option.some_ne_none _ (hpc.symm.trans h)

/-- The reader does not become live by itself, and while it stays live it leaves the state
    alone. -/
theorem readerStep_live {result : ReadResult} {pc : ReaderPc} (hpc : s.reader = some pc)
    (h : s.readerStep result pc = some s') (hlive : s'.ReaderLive) :
    s.ReaderLive ∧ s'.connectionState = s.connectionState := by
  obtain ⟨pc₁, hpc₁, hstay, hreading, hrunning⟩ := hlive
  rcases readerStep_cases h with
    ⟨pc', rfl, hin, -⟩ | ⟨pc', rfl, -, -, hout, -⟩ | ⟨pc', rfl, -, -, hout, -⟩ | ⟨-, rfl⟩
  · exact ⟨⟨pc, hpc, hin, hreading, hrunning⟩, rfl⟩
  · cases hpc₁
    exact absurd (hstay.symm.trans hout) Bool.false_ne_true
  · cases hpc₁
    exact absurd (hstay.symm.trans hout) Bool.false_ne_true
  · cases hpc₁
    cases hstay

theorem readerStep_reconnectInv (hinv : s.ReconnectInv) (ht : s.Inv) {result : ReadResult}
    {pc : ReaderPc} (hpc : s.reader = some pc) (h : s.readerStep result pc = some s') :
    s'.ReconnectInv := by
  have hconnect : s'.connectThread = s.connectThread := by
    rcases readerStep_cases h with ⟨_, rfl, -⟩ | ⟨_, rfl, -⟩ | ⟨_, rfl, -⟩ | ⟨-, rfl⟩ <;> rfl
  refine ⟨?_, ?_, ?_⟩
  · intro hlive
    obtain ⟨hlive', hstate⟩ := readerStep_live hpc h hlive
    exact hstate.trans (hinv.connected hlive')
  · intro c hc ha hlive
    rw [hconnect] at hc
    exact hinv.attempt c hc ha (readerStep_live hpc h hlive).1
  · -- while a new reader is being started there is none
    intro c hc hs _
    rw [hconnect] at hc
    have hb : betweenReaders c = true := by
      cases c <;> first | rfl | cases hs
    exact absurd (hpc.symm.trans (ht.noReader c hc hb)) (Option.some_ne_none pc)

/-- Without a live reader only the start of a new one is left to look at. -/
theorem ReconnectInv.of_not_live (hlive : ¬ s.ReaderLive)
    (hstart : ∀ pc, s.connectThread = some pc → starting pc = true → s.running = true →
      s.connectionState = .connected) : s.ReconnectInv :=
  ⟨fun h => absurd h hlive, fun _ _ _ => hlive, hstart⟩

/-- The connect thread goes on and touches nothing the invariant is about. -/
theorem ReconnectInv.atConnect (hinv : s.ReconnectInv) {pc : ConnectPc}
    (hattempt : attempting pc = true → ¬ s.ReaderLive) (hstart : starting pc = false) :
    (s.atConnect pc).ReconnectInv where
  connected := hinv.connected
  attempt := by
    intro c hc ha
    cases hc
    exact hattempt ha
  start := by
    intro c hc hs
    cases hc
    exact absurd (hstart.symm.trans hs) Bool.false_ne_true

theorem ReconnectInv.congr (hinv : s.ReconnectInv) (s' : TcpRadarClient)
    (hstate : s'.connectionState = s.connectionState) (hreader : s'.reader = s.reader)
    (hreading : s'.reading = s.reading) (hrunning : s'.running = s.running)
    (hconnect : s'.connectThread = s.connectThread) : s'.ReconnectInv where
  connected := fun h => hstate.trans (hinv.connected (h.congr hreader hreading hrunning))
  attempt := by
    intro c hc ha h
    exact hinv.attempt c (hconnect ▸ hc) ha (h.congr hreader hreading hrunning)
  start := by
    intro c hc hs hr
    exact hstate.trans (hinv.start c (hconnect ▸ hc) hs (hrunning ▸ hr))

theorem ReconnectInv.notify (hinv : s.ReconnectInv) : s.notify.ReconnectInv := by
  by_cases h : s.connectThread = some .waiting
  · rw [notify_of_waiting h]
    exact hinv.atConnect (fun h => absurd h Bool.false_ne_true) rfl
  · rw [notify_of_not_waiting h]
    exact hinv

/-- A statement of the connect thread keeps the invariant: the reader becomes live only when it
    is started, and then the state is connected. -/
theorem connectStep_reconnectInv (hinv : s.ReconnectInv) (ht : s.Inv) {ok : Bool}
    {pc : ConnectPc} (hpc : s.connectThread = some pc) (h : s.connectStep ok pc = some s') :
    s'.ReconnectInv := by
  have hattempt : attempting pc = true → ¬ s.ReaderLive := hinv.attempt pc hpc
  have hnone : betweenReaders pc = true → s.reader = none := ht.noReader pc hpc
  have hstart : starting pc = true → s.running = true → s.connectionState = .connected :=
    hinv.start pc hpc
  cases pc with
  | waiting | exited => cases h
  | guard | woken =>
    cases h
    split <;> exact hinv.atConnect (fun h => absurd h Bool.false_ne_true) rfl
  | enter =>
    cases h
    exact hinv.atConnect (fun h => absurd h Bool.false_ne_true) rfl
  | check =>
    cases h
    have hinv' := hinv.congr { s with attempted := true } rfl rfl rfl rfl rfl
    split
    · exact hinv'.atConnect (fun h => absurd h Bool.false_ne_true) rfl
    · rename_i hdown
      exact hinv'.atConnect (fun _ hlive => hdown hlive.running) rfl
  | checkState =>
    cases h
    split
    · exact hinv.atConnect (fun h => absurd h Bool.false_ne_true) rfl
    · -- a live reader's state is connected
      rename_i hstate
      exact hinv.atConnect (fun _ hlive => hstate (hinv.connected hlive)) rfl
  | storeConnecting | storeFailed | closeOld | create =>
    cases h
    exact .of_not_live (fun hlive => hattempt rfl (hlive.congr rfl rfl rfl)) (by
      intro c hc hs
      cases hc
      cases hs)
  | markConnecting | dial | markFailed =>
    cases h
    split <;> exact hinv.atConnect (fun _ => hattempt rfl) rfl
  | join =>
    obtain ⟨t, ht, rfl⟩ := Option.map_eq_some_iff.mp h
    obtain ⟨-, rfl⟩ := joinReader_eq ht
    exact .of_not_live (not_readerLive_of_none rfl) (by
      intro c hc hs
      cases hc
      cases hs)
  | markConnected =>
    cases h
    refine .of_not_live (not_readerLive_of_none (hnone rfl)) ?_
    intro c hc hs hrun
    have hup : s.running = true := hrun
    have hstored : some (if s.running then ConnectPc.storeConnected else .raise) = some c := hc
    rw [if_pos hup] at hstored
    cases hstored
    cases hs
  | storeConnected =>
    cases h
    exact .of_not_live (not_readerLive_of_none (hnone rfl)) fun _ _ _ _ => rfl
  | raise =>
    cases h
    exact .of_not_live (not_readerLive_of_none (hnone rfl)) (fun _ _ _ hrun => hstart rfl hrun)
  | spawn =>
    cases h
    refine ⟨?_, ?_, ?_⟩
    · intro hlive
      exact hstart rfl hlive.running
    · intro c hc ha
      cases hc
      cases ha
    · intro c hc hs
      cases hc
      cases hs

theorem controlStep_reconnectInv (hinv : s.ReconnectInv) (ht : s.Inv) {pc : ControlPc}
    (hpc : s.control = pc) (h : s.controlStep pc = some s') : s'.ReconnectInv := by
  cases pc with
  | idle => cases h
  | startRun =>
    obtain ⟨hr, hc⟩ := ht.noThreads (Or.inr (Or.inl hpc))
    cases h
    exact .of_not_live (not_readerLive_of_none hr)
      (fun c hc' => absurd (hc'.symm.trans hc) (Option.some_ne_none c))
  | startSpawn =>
    cases h
    have hinv' : (s.atConnect .guard).ReconnectInv :=
      hinv.atConnect (fun h => absurd h Bool.false_ne_true) rfl
    exact hinv'.congr _ rfl rfl rfl rfl rfl
  | startNotify | stopNotify =>
    cases h
    exact hinv.notify.congr _ rfl rfl rfl rfl rfl
  | startTimer | stopClose =>
    cases h
    exact hinv.congr _ rfl rfl rfl rfl rfl
  | stopTimer =>
    simp only [controlStep] at h
    split at h
    · cases h
    · cases h
      exact hinv.congr _ rfl rfl rfl rfl rfl
  | stopRun =>
    cases h
    exact .of_not_live (fun hlive => absurd hlive.running Bool.false_ne_true)
      (fun _ _ _ hrun => absurd hrun Bool.false_ne_true)
  | stopJoinConnect =>
    simp only [controlStep] at h
    split at h
    · cases h
      exact ⟨fun hlive => hinv.connected (hlive.congr rfl rfl rfl),
        fun _ hc => absurd hc.symm (Option.some_ne_none _),
        fun _ hc => absurd hc.symm (Option.some_ne_none _)⟩
    · cases h
  | stopLower =>
    cases h
    refine .of_not_live ?_ hinv.start
    intro hlive
    obtain ⟨_, _, _, hreading, -⟩ := hlive
    exact Bool.false_ne_true hreading
  | stopJoinReader =>
    obtain ⟨t, ht, rfl⟩ := Option.map_eq_some_iff.mp h
    obtain ⟨-, rfl⟩ := joinReader_eq ht
    exact .of_not_live (not_readerLive_of_none rfl) hinv.start

theorem step_reconnectInv {a : Action} (ht : s.Inv) (hinv : s.ReconnectInv)
    (hok : s.SendFailsHarmlessly a) (h : s.step a = some s') : s'.ReconnectInv := by
  cases step_moves h with
  | call _ _ => exact hinv.congr _ rfl rfl rfl rfl rfl
  | control h => exact controlStep_reconnectInv hinv ht rfl h
  | connect hpc h => exact connectStep_reconnectInv hinv ht hpc h
  | reader hpc h => exact readerStep_reconnectInv hinv ht hpc h
  | woken _ =>
    have hinv' : (s.atConnect .woken).ReconnectInv :=
      hinv.atConnect (fun h => absurd h Bool.false_ne_true) rfl
    exact hinv'.congr _ rfl rfl rfl rfl rfl
  | aside => exact hinv.congr _ rfl rfl rfl rfl rfl
  | mark _ =>
    obtain ⟨hlive, hstart⟩ := hok rfl
    refine .of_not_live (fun h => hlive (h.congr rfl rfl rfl)) ?_
    intro c hc hs
    exact absurd ((hstart c hc).symm.trans hs) Bool.false_ne_true

/-! ## The way out -/

/-- A statement of a reader that is not live leads it further out. -/
theorem readerStep_toExit {pc : ReaderPc} (hpc : s.reader = some pc) (hlive : ¬ s.ReaderLive)
    (hne : pc ≠ .exited) (result : ReadResult) :
    ∃ s' pc', s.step (.reader result) = some s' ∧ s'.reader = some pc' ∧
      pc'.toExit < pc.toExit ∧ ¬ s'.ReaderLive ∧ s'.connectThread = s.connectThread := by
  have hsome : (s.readerStep result pc).isSome = true := by
    cases pc <;> cases result <;> first | rfl | exact absurd rfl hne
  obtain ⟨s', h⟩ := Option.isSome_iff_exists.mp hsome
  have hstep : s.step (.reader result) = some s' := Option.bind_eq_some_iff.mpr ⟨pc, hpc, h⟩
  have hlive' : ¬ s'.ReaderLive := fun hl => hlive (readerStep_live hpc h hl).1
  rcases readerStep_cases h with ⟨pc', rfl, hin, -, hdown⟩ | ⟨pc', rfl, -, -, -, -, hlt⟩ |
    ⟨pc', rfl, -, -, -, hlt⟩ | ⟨rfl, rfl⟩
  · exact ⟨_, pc', hstep, rfl, hdown fun hup => hlive ⟨pc, hpc, hin, hup⟩, hlive', rfl⟩
  · exact ⟨_, pc', hstep, rfl, hlt, hlive', rfl⟩
  · exact ⟨_, pc', hstep, rfl, hlt, hlive', rfl⟩
  · exact ⟨_, .exited, hstep, rfl, by decide, hlive', rfl⟩

/-- Whatever its receives get, a reader that is not live exits. -/
theorem reader_exits {pc : ReaderPc} (hpc : s.reader = some pc) (hlive : ¬ s.ReaderLive)
    (results : List ReadResult) (hlen : pc.toExit ≤ results.length) :
    ∃ n s', run step always s ((results.take n).map .reader) = some s' ∧
      s'.reader = some .exited ∧ s'.connectThread = s.connectThread := by
  induction results generalizing s pc with
  | nil =>
    have hexit : pc = .exited := by
      cases pc <;> first | rfl | exact absurd hlen (by decide)
    exact ⟨0, s, rfl, hexit ▸ hpc, rfl⟩
  | cons result results ih =>
    by_cases hexit : pc = .exited
    · exact ⟨0, s, rfl, hexit ▸ hpc, rfl⟩
    · obtain ⟨s₁, pc₁, hstep, hpc₁, hlt, hlive₁, hconnect⟩ :=
        readerStep_toExit hpc hlive hexit result
      obtain ⟨n, s', hrun, hout, hconnect'⟩ := ih hpc₁ hlive₁ (by
        rw [List.length_cons] at hlen
        omega)
      refine ⟨n + 1, s', ?_, hout, hconnect'.trans hconnect⟩
      rw [List.take_succ_cons, List.map_cons, run, if_pos trivial, hstep]
      exact hrun

/-! ## The join -/

theorem reach_inv {ok : TcpRadarClient → Action → Prop} (h : Reach step ok constructed s) :
    s.Inv := h.invariant inv_constructed fun hi _ hs => step_inv hi hs

theorem reach_reconnectInv (h : Reach step SendFailsHarmlessly constructed s) :
    s.ReconnectInv :=
  h.invariant_of reach_inv reconnectInv_constructed fun ht hi hok hs =>
    step_reconnectInv ht hi hok hs

/-- **The join of the old reader ends**, in every run in which failed sends are harmless. The
    reader has left its loop, is on a path that ends in `break`, or has a false guard; six
    statements later at most, whatever its receives get, it has exited. -/
theorem joined_reader_leaves (h : Reach step SendFailsHarmlessly constructed s)
    (hjoin : s.connectThread = some .join) {pc : ReaderPc} (hpc : s.reader = some pc) :
    (pc.leaving = true ∨ ¬ (s.reading = true ∧ s.running = true)) ∧
      ∀ results : List ReadResult, results.length = 6 →
        ∃ n s', run step always s ((results.take n).map .reader) = some s' ∧
          s'.reader = some .exited ∧ s'.connectThread = some .join := by
  have hlive : ¬ s.ReaderLive := (reach_reconnectInv h).attempt _ hjoin rfl
  constructor
  · by_contra hnot
    rw [not_or, not_not, Bool.not_eq_true] at hnot
    exact hlive ⟨pc, hpc, hnot⟩
  · intro results hlen
    have hle : pc.toExit ≤ results.length := by
      rw [hlen]
      cases pc <;> decide
    obtain ⟨n, s', hrun, hout, hconnect⟩ := reader_exits hpc hlive results hle
    exact ⟨n, s', hrun, hout, hconnect.trans hjoin⟩

/-- `start()`, a connection attempt that succeeds, and the connect thread waiting again. -/
def connectedSession : List Action :=
  [.start, .control, .control, .connect true, .connect true, .control, .control] ++
    List.replicate 15 (.connect true)

/-- The timer wakes the connect thread, which goes as far as the join. -/
def reconnectToJoin : List Action :=
  [.tick, .timerCheck, .timerNotify] ++ List.replicate 8 (.connect true)

/-- The reader fails in `handle_data` and is overtaken by the next attempt on its way out. -/
def readFails : List Action :=
  connectedSession ++ [.reader .nothing, .reader .signature, .reader .nothing,
    .reader .nothing, .reader .nothing] ++ reconnectToJoin

/-- A send fails while the reader waits for the next frame. -/
def sendFails : List Action :=
  connectedSession ++ [.reader .nothing, .sendCheck, .sendCheckState, .sendDone true,
    .sendFailed, .sendMark] ++
    reconnectToJoin

theorem joined_reader_leaves_after_read_error :
    ∃ s, Reach step SendFailsHarmlessly constructed s ∧ s.reader = some .mark ∧
      (ReaderPc.mark.leaving = true ∨ ¬ (s.reading = true ∧ s.running = true)) := by
  obtain ⟨s, hrun, hjoin, hpc⟩ := exists_reach step (fun _ a => a ≠ .sendMark) constructed
    readFails (fun s => s.connectThread = some .join ∧ s.reader = some .mark) (by decide)
  have hreach : Reach step SendFailsHarmlessly constructed s :=
    hrun.mono fun _ _ hne heq => absurd heq hne
  exact ⟨s, hreach, hpc, (joined_reader_leaves hreach hjoin hpc).1⟩

/-- After a failed send, the join may find the reader reading. -/
theorem joined_reader_may_stay :
    ¬ ∀ s, Reach step always constructed s → s.connectThread = some .join →
      ∀ pc, s.reader = some pc →
        pc.leaving = true ∨ ¬ (s.reading = true ∧ s.running = true) := by
  intro h
  obtain ⟨s, hrun, hjoin, hpc, hup⟩ := exists_reach step always constructed sendFails
    (fun s => s.connectThread = some .join ∧ s.reader = some .peek ∧ s.reading = true ∧
      s.running = true) (by decide)
  rcases h s hrun hjoin .peek hpc with hleaving | hdown
  · exact Bool.false_ne_true hleaving
  · exact hdown hup

end Navtech.Network.TcpRadarClient
