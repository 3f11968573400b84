/-
  `Tcp_socket::send` and `Tcp_radar_client::send` over a kernel that takes as much of a buffer
  as it likes.

  `::send` answers with the number of bytes it has taken, which under back-pressure may be
  fewer than it was given, or with -1. `Tcp_socket::send` looks for the -1 only and reports
  everything else as success, so the rest of a frame taken in part is never sent and the next
  frame follows in the middle of it. The frames are on the wire one after the other, whole, for
  as long as the state stays `connected`, exactly if the kernel takes the whole of every frame
  up to its first error (`framed_iff`).
-/
import Navtech.Network.ReadThread

namespace Navtech.Network

/-- The status of a call of `::send`, with `errno` where it is -1. -/
inductive SendStatus where
  | accepted (n : Nat)
  | error (errno : UInt32)
deriving DecidableEq, Repr

/-- The kernel's answers to `::send`: of the call's number and the buffer. It takes a non-empty
    part from the front of the buffer, or fails with an `errno` other than 0. -/
structure SendSchedule where
  answer : Nat → Bytes → SendStatus
  accepted_le {i : Nat} {data : Bytes} {n : Nat} : answer i data = .accepted n → n ≤ data.length
  accepted_pos {i : Nat} {data : Bytes} {n : Nat} : answer i data = .accepted n →
    data ≠ [] → 0 < n
  error_ne {i : Nat} {data : Bytes} {errno : UInt32} : answer i data = .error errno → errno ≠ 0

/-- The sending side of a connected socket: how many calls have been made, and the bytes that
    have been handed over. -/
structure SendSide where
  calls : Nat
  wire : Bytes
deriving DecidableEq, Repr

/-- `Tcp_socket::send`, both overloads: what it returns, and the socket. -/
def SendSide.send (κ : SendSchedule) (data : Bytes) (sock : SendSide) : UInt32 × SendSide :=
  match κ.answer sock.calls data with
  | .error errno => (errno, { sock with calls := sock.calls + 1 })
  | .accepted n => (0, ⟨sock.calls + 1, sock.wire ++ data.take n⟩)

/-- What `Tcp_radar_client::send` reads and writes. -/
structure Sender where
  running : Bool
  connectionState : ConnectionState
  socket : SendSide
deriving DecidableEq, Repr

namespace Sender

def getConnectionState (s : Sender) : ConnectionState :=
  if ¬ s.running then .disconnected else s.connectionState

def setConnectionState (s : Sender) (state : ConnectionState) : Sender :=
  if ¬ s.running then s else { s with connectionState := state }

/-- `Tcp_radar_client::send`. -/
def send (κ : SendSchedule) (s : Sender) (data : Bytes) : Sender :=
  if s.getConnectionState ≠ .connected then s
  else
    let (status, socket) := s.socket.send κ data
    let s := { s with socket := socket }
    if status ≠ 0 then s.setConnectionState .disconnected else s

/-- The frames, sent one after the other. -/
def run (κ : SendSchedule) (s : Sender) (frames : List Bytes) : Sender :=
  frames.foldl (send κ) s

/-- A success is reported only for a frame that has been handed over whole, and as long as the
    state is `connected` the wire has whole frames, in order. -/
structure Framed (κ : SendSchedule) (s : Sender) (frames : List Bytes) : Prop where
  handed (before after : List Bytes) {data : Bytes} : frames = before ++ data :: after →
    (s.run κ before).getConnectionState = .connected →
    ((s.run κ before).socket.send κ data).1 = 0 →
    ((s.run κ before).socket.send κ data).2.wire = (s.run κ before).socket.wire ++ data
  whole (before after : List Bytes) : frames = before ++ after →
    (s.run κ before).getConnectionState = .connected →
    (s.run κ before).socket.wire = s.socket.wire ++ before.flatten

/-- From the call `i` on, one call for each frame: none before the first error takes less than
    the frame. -/
def TakesWhole (κ : SendSchedule) : Nat → List Bytes → Prop
  | _, [] => True
  | i, data :: rest =>
    match κ.answer i data with
    | .accepted n => n = data.length ∧ TakesWhole κ (i + 1) rest
    | .error _ => True

variable {κ : SendSchedule} {s : Sender}

/-- A client that has just connected. -/
def connected : Sender := ⟨true, .connected, ⟨0, []⟩⟩

/-! ## One frame -/

theorem connected_iff : s.getConnectionState = .connected ↔
    s.running = true ∧ s.connectionState = .connected := by
  unfold getConnectionState
  cases s.running <;> simp

theorem send_accepted {data : Bytes} {n : Nat} (hconn : s.getConnectionState = .connected)
    (hans : κ.answer s.socket.calls data = .accepted n) :
    s.send κ data = { s with socket := ⟨s.socket.calls + 1, s.socket.wire ++ data.take n⟩ } := by
  unfold send SendSide.send
  rw [if_neg (not_not.mpr hconn), hans]
  exact if_neg (not_not.mpr rfl)

theorem send_error {data : Bytes} {errno : UInt32} (hconn : s.getConnectionState = .connected)
    (hans : κ.answer s.socket.calls data = .error errno) :
    (s.send κ data).getConnectionState = .disconnected := by
  unfold send SendSide.send
  rw [if_neg (not_not.mpr hconn), hans]
  show getConnectionState (if errno ≠ 0 then _ else _) = _
  rw [if_pos (κ.error_ne hans)]
  obtain ⟨hrun, -⟩ := connected_iff.mp hconn
  unfold setConnectionState getConnectionState
  simp [hrun]

/-- Without a connection nothing is sent. -/
theorem run_not_connected (h : s.getConnectionState ≠ .connected) (frames : List Bytes) :
    s.run κ frames = s := by
  induction frames with
  | nil => rfl
  | cons data rest ih =>
    have hsend : s.send κ data = s := if_pos h
    show (s.send κ data).run κ rest = s
    rw [hsend]
    exact ih

theorem framed_not_connected (h : s.getConnectionState ≠ .connected) (frames : List Bytes) :
    Framed κ s frames := by
  constructor
  · intro before _ _ _ hconn
    exact absurd (run_not_connected h before ▸ hconn) h
  · intro before _ _ hconn
    exact absurd (run_not_connected h before ▸ hconn) h

/-! ## All frames -/

/-- A first frame that is handed over whole if it is reported as sent, and the rest. -/
theorem framed_of_cons {data : Bytes} {rest : List Bytes}
    (hfirst : (s.socket.send κ data).1 = 0 →
      (s.socket.send κ data).2.wire = s.socket.wire ++ data)
    (hhanded : ∀ before after d, rest = before ++ d :: after →
      ((s.send κ data).run κ before).getConnectionState = .connected →
      (((s.send κ data).run κ before).socket.send κ d).1 = 0 →
      (((s.send κ data).run κ before).socket.send κ d).2.wire =
        ((s.send κ data).run κ before).socket.wire ++ d)
    (hwhole : ∀ before after, rest = before ++ after →
      ((s.send κ data).run κ before).getConnectionState = .connected →
      ((s.send κ data).run κ before).socket.wire =
        s.socket.wire ++ (data ++ before.flatten)) : Framed κ s (data :: rest) := by
  constructor
  · intro before after d hsplit hup hzero
    cases before with
    | nil =>
      obtain ⟨rfl, -⟩ := List.cons.inj hsplit
      exact hfirst hzero
    | cons d' before =>
      obtain ⟨rfl, hrest⟩ := List.cons.inj hsplit
      exact hhanded before after d hrest hup hzero
  · intro before after hsplit hup
    cases before with
    | nil => exact (List.append_nil _).symm
    | cons d before =>
      obtain ⟨rfl, hrest⟩ := List.cons.inj hsplit
      exact hwhole before after hrest hup

/-- The frames after a first one that the kernel has taken whole. -/
theorem framed_cons {data : Bytes} {rest : List Bytes}
    (hconn : s.getConnectionState = .connected)
    (hans : κ.answer s.socket.calls data = .accepted data.length) :
    Framed κ s (data :: rest) ↔ Framed κ (s.send κ data) rest := by
  have hwire : (s.send κ data).socket.wire = s.socket.wire ++ data := by
    rw [send_accepted hconn hans, List.take_length]
  constructor
  · intro h
    constructor
    · intro before after d hsplit
      exact h.handed (data :: before) after (congrArg (data :: ·) hsplit)
    · intro before after hsplit hup
      have hall := h.whole (data :: before) after (congrArg (data :: ·) hsplit) hup
      rw [hwire, List.append_assoc]
      exact hall
  · intro h
    refine framed_of_cons ?_ ?_ ?_
    · intro _
      unfold SendSide.send
      rw [hans]
      show s.socket.wire ++ data.take data.length = _
      rw [List.take_length]
    · intro before after d hrest hup hzero
      exact h.handed before after hrest hup hzero
    · intro before after hrest hup
      rw [h.whole before after hrest hup, hwire, List.append_assoc]

/-- After an error nothing more is sent. -/
theorem framed_error {data : Bytes} {rest : List Bytes} {errno : UInt32}
    (hconn : s.getConnectionState = .connected)
    (hans : κ.answer s.socket.calls data = .error errno) : Framed κ s (data :: rest) := by
  have hdown : (s.send κ data).getConnectionState ≠ .connected := by
    rw [send_error hconn hans]
    decide
  have hnever (before : List Bytes) :
      ((s.send κ data).run κ before).getConnectionState ≠ .connected := by
    rw [run_not_connected hdown]
    exact hdown
  have hstatus : (s.socket.send κ data).1 = errno := by
    unfold SendSide.send
    rw [hans]
  refine framed_of_cons ?_ ?_ ?_
  · exact fun hzero => absurd (hstatus.symm.trans hzero) (κ.error_ne hans)
  · exact fun before _ _ _ hup => absurd hup (hnever before)
  · exact fun before _ _ hup => absurd hup (hnever before)

/-- A frame taken in part is reported as sent. -/
theorem not_framed_of_short {data : Bytes} {rest : List Bytes} {n : Nat}
    (hconn : s.getConnectionState = .connected)
    (hans : κ.answer s.socket.calls data = .accepted n) (hshort : n ≠ data.length) :
    ¬ Framed κ s (data :: rest) := by
  intro h
  have hsend : s.socket.send κ data = (0, ⟨s.socket.calls + 1, s.socket.wire ++ data.take n⟩) := by
    unfold SendSide.send
    rw [hans]
  have hhanded := h.handed [] rest rfl hconn (congrArg Prod.fst hsend)
  have htake : data.take n = data :=
    List.append_cancel_left (((congrArg (·.2.wire) hsend).symm.trans hhanded))
  have hlength := congrArg List.length htake
  rw [List.length_take] at hlength
  have hle := κ.accepted_le hans
  omega

/-- **Whole frames.** From any state, the frames go out whole and successes are reported for
    whole frames only, exactly if the kernel takes every frame whole up to its first error. -/
theorem framed_iff (κ : SendSchedule) (s : Sender) (frames : List Bytes) :
    Framed κ s frames ↔
      (s.getConnectionState = .connected → TakesWhole κ s.socket.calls frames) := by
  induction frames generalizing s with
  | nil =>
    refine iff_of_true ⟨?_, ?_⟩ fun _ => trivial
    · intro before after data hsplit
      exact absurd hsplit (by simp)
    · intro before after hsplit _
      obtain ⟨rfl, -⟩ := List.append_eq_nil_iff.mp hsplit.symm
      exact (List.append_nil _).symm
  | cons data rest ih =>
    by_cases hconn : s.getConnectionState = .connected
    · rw [forall_prop_of_true hconn]
      unfold TakesWhole
      split
      · rename_i n hans
        by_cases hn : n = data.length
        · subst hn
          have hup : (s.send κ data).getConnectionState = .connected := by
            rw [send_accepted hconn hans]
            exact hconn
          rw [framed_cons hconn hans, ih, forall_prop_of_true hup, send_accepted hconn hans]
          exact (and_iff_right rfl).symm
        · exact iff_of_false (not_framed_of_short hconn hans hn) fun h => hn h.1
      · rename_i errno hans
        exact iff_of_true (framed_error hconn hans) trivial
    · exact iff_of_true (framed_not_connected hconn _) fun h => absurd h hconn

/-- A kernel that takes at most `room` bytes a call. -/
def underPressure (room : Nat) (hroom : 0 < room) : SendSchedule where
  answer _ data := .accepted (min room data.length)
  accepted_le h := by
    obtain rfl := SendStatus.accepted.inj h
    exact Nat.min_le_right _ _
  accepted_pos h hne := by
    obtain rfl := SendStatus.accepted.inj h
    exact lt_min hroom (List.length_pos_iff.mpr hne)
  error_ne h := nomatch h

/-- With room for ten bytes, `start_fft_data` and `stop_fft_data` are reported as sent and the
    client stays connected, but the second frame begins in the middle of the first. -/
theorem not_framed_underPressure :
    ¬ Framed (underPressure 10 (by decide)) connected [frameBytes 21 [], frameBytes 22 []] ∧
      (connected.run (underPressure 10 (by decide)) [frameBytes 21 [], frameBytes 22 []]) =
        { connected with
          socket := ⟨2, (frameBytes 21 []).take 10 ++ (frameBytes 22 []).take 10⟩ } := by
  refine ⟨fun h => ?_, by decide⟩
  have hwire := h.whole [frameBytes 21 []] [frameBytes 22 []] rfl (by decide)
  exact absurd hwire (by decide)

end Sender

end Navtech.Network
