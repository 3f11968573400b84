/-
  The two models of the read thread agree.

  `ReadThread` runs the thread alone against a kernel, a trip of its loop at a time;
  `TcpRadarClient` runs it a statement at a time among the other threads and leaves what its
  receives get to the action. `withReader s st` is the client `s` with the thread `st` as its
  reader. Every trip of `st` is a sequence of reader statements that takes `withReader s st`
  to `withReader s` of the thread after the trip (`trip_simulated`); hence every run of the
  thread alone is a run of the client in which only the reader moves (`run_simulated`).
-/
import Navtech.Network.Reconnect

namespace Navtech.Network.TcpRadarClient

open Transition

/-- The client with this thread as its reader: at its guard, or exited. -/
def withReader (s : TcpRadarClient) (st : ReadThread) : TcpRadarClient :=
  { s with
    reading := st.reading
    running := st.running
    connectionState := st.connectionState
    reader := some (if st.inLoop then .guard else .exited) }

variable {σ : Schedule} {st : ReadThread} {s : TcpRadarClient}

/-- A trip with the flags up, as statements of the reader. -/
theorem trip_simulated (s : TcpRadarClient) (hl : st.Live) :
    ∃ results : List ReadResult,
      run step always (s.withReader st) (results.map .reader) =
        some (s.withReader (st.iterate σ)) := by
  have htrip := ReadThread.iterate_trip (σ := σ) hl
  generalize st.iterate σ = st' at htrip
  obtain ⟨kernel, isValid, reading, running, state, queue, inLoop⟩ := st
  obtain ⟨rfl, rfl, rfl, rfl⟩ := hl
  cases htrip with
  | quiet _ => exact ⟨[.nothing, .nothing], rfl⟩
  | skipped _ _ _ _ => exact ⟨[.nothing, .junk, .junk], rfl⟩
  | framed f _ _ _ => exact ⟨[.nothing, .signature, .complete, .nothing], rfl⟩
  | left _ _ => exact ⟨[.nothing, .junk, .nothing, .nothing, .nothing, .nothing], rfl⟩

/-- A run of the thread alone is a run of the client in which only the reader moves. -/
theorem run_simulated (s : TcpRadarClient) (stream : Bytes) (n : Nat) :
    ∃ results : List ReadResult,
      run step always (s.withReader (.start stream)) (results.map .reader) =
        some (s.withReader (ReadThread.run σ (.start stream) n)) := by
  induction n with
  | zero => exact ⟨[], rfl⟩
  | succ n ih =>
    obtain ⟨results, hrun⟩ := ih
    have hinv := ReadThread.run_inv (σ := σ) (ReadThread.inv_start stream) n
    rw [ReadThread.run]
    generalize ReadThread.run σ (.start stream) n = st at hrun hinv
    cases hin : st.inLoop with
    | false =>
      rw [ReadThread.step_of_left hin]
      exact ⟨results, hrun⟩
    | true =>
      obtain ⟨more, hmore⟩ := trip_simulated (σ := σ) s (hinv hin).1
      rw [ReadThread.step_of_inLoop hin]
      refine ⟨results ++ more, ?_⟩
      rw [List.map_append, run_append, hrun]
      exact hmore

end Navtech.Network.TcpRadarClient
