/-
  Does the way the operating system splits the stream matter to the read thread?

  A `Splitting` answers every call with some of the bytes asked for, as long as bytes are
  unread; the bounds are fields. Of a stream of frames the thread should hand over all frames
  under every splitting. It does so exactly when the first peek at the start of each frame is
  answered in full (`chunking_iff`). A shorter answer makes `receive` peek again at the same
  place; what it puts together is not the signature, and the thread drops the first byte of
  the frame. From there on fewer bytes are left than the missing frames have (`weight`).
-/
import Navtech.Network.Framing

namespace Navtech.Network

/-- A schedule that hands over some bytes at every call, as long as any are unread. -/
structure Splitting where
  schedule : Schedule
  peekPos : ∀ i want avail, 0 < want → 0 < avail → 0 < schedule.peek i want avail
  readPos : ∀ i want avail, 0 < want → 0 < avail → 0 < schedule.read i want avail

namespace Splitting

theorem deliversReads (σ : Splitting) : σ.schedule.DeliversReads :=
  fun i want avail hpos hle => σ.readPos i want avail hpos (Nat.lt_of_lt_of_le hpos hle)

/-- Nothing is split. -/
def whole : Splitting where
  schedule := Schedule.whole
  peekPos := fun _ _ _ hwant _ => hwant
  readPos := fun _ _ _ hwant _ => hwant

/-- The first peek is answered with ten bytes at most; nothing else is split. -/
def shortFirstPeek : Splitting where
  schedule := ⟨fun i want _ => if i = 0 then min 10 want else want, fun _ want _ => want⟩
  peekPos := by
    intro i want avail hwant _
    show 0 < if i = 0 then min 10 want else want
    split <;> omega
  readPos := fun _ _ _ hwant _ => hwant

end Splitting

namespace ReadThread

variable {σ : Schedule} {st : ReadThread}

theorem deframes_stream (fs : List Frame) : Deframes (Frame.stream fs) fs [] := by
  induction fs with
  | nil => exact .cut .nil
  | cons f fs ih => exact .frame f ih

theorem HandsOver.unique {stream : Bytes} {out out' : List Bytes} (h : HandsOver σ stream out)
    (h' : HandsOver σ stream out') : out = out' := by
  obtain ⟨N, hN⟩ := h
  obtain ⟨N', hN'⟩ := h'
  exact (hN _ (Nat.le_max_left N N')).symm.trans (hN' _ (Nat.le_max_right N N'))

/-! ## Frames peeked in full -/

/-- Over frames whose first peeks are answered in full, the thread takes a frame a trip. -/
theorem run_frames (hσ : σ.DeliversReads) (fs : List Frame) (rest : Bytes) (hl : st.Live)
    (hk : st.kernel.unread = Frame.stream fs ++ rest)
    (hans : ∀ i, i < fs.length → 16 ≤ σ.peek (st.kernel.peeks + i) 16
      (Frame.stream (fs.drop i) ++ rest).length) :
    ∃ k, run σ st fs.length = { st with
        kernel := k, receiveDataQueue := st.receiveDataQueue ++ fs.map Frame.bytes } ∧
      k.unread = rest ∧ k.peeks = st.kernel.peeks + fs.length := by
  induction fs generalizing st with
  | nil =>
    refine ⟨st.kernel, ?_, hk, rfl⟩
    rw [List.map_nil, List.append_nil]
    rfl
  | cons f fs ih =>
    rw [Frame.stream_cons, List.append_assoc] at hk
    have h0 := hans 0 (Nat.succ_pos _)
    rw [List.drop_zero, Frame.stream_cons, List.append_assoc, ← hk] at h0
    obtain ⟨k, heq, hrest, hpeeks⟩ := iterate_frame hσ hl f hk h0
    have hl' : (({ st with kernel := k } : ReadThread).enqueue f.bytes).Live :=
      ⟨hl.inLoop, hl.socketIsValid, hl.reading, hl.running⟩
    have hans' : ∀ i, i < fs.length → 16 ≤ σ.peek (k.peeks + i) 16
        (Frame.stream (fs.drop i) ++ rest).length := by
      intro i hi
      have h := hans (i + 1) (Nat.succ_lt_succ hi)
      rw [hpeeks, Nat.add_assoc, Nat.add_comm 1 i]
      exact h
    obtain ⟨k', hrun, hrest', hpeeks'⟩ := ih hl' hrest hans'
    refine ⟨k', ?_, hrest', ?_⟩
    · rw [List.length_cons, Nat.add_comm, run_one_add hl, heq, hrun]
      simp [enqueue]
    · rw [hpeeks', List.length_cons]
      show k.peeks + fs.length = _
      rw [hpeeks]
      omega

/-! ## The weight of what is left -/

/-- The bytes handed over and the bytes that still can be. -/
def weight (st : ReadThread) : Nat := st.receiveDataQueue.flatten.length + st.kernel.unread.length

theorem step_weight (hinv : st.Inv) : (st.step σ).weight ≤ st.weight := by
  refine step_rule (P := fun st' => st'.weight ≤ st.weight) hinv le_rfl fun _ _ htrip => ?_
  cases htrip with
  | quiet _ =>
    unfold weight
    rw [peeked_unread]
  | skipped _ _ hsplit _ | left _ hsplit =>
    unfold weight
    rw [hsplit, List.length_append]
    exact Nat.add_le_add_left (Nat.le_add_left _ _) _
  | framed f _ hsplit _ =>
    unfold weight
    rw [hsplit, List.length_append]
    simp only [enqueue, List.flatten_append, List.flatten_cons, List.flatten_nil,
      List.append_nil, List.length_append]
    omega

theorem run_weight (hinv : st.Inv) (n : Nat) : (run σ st n).weight ≤ st.weight := by
  induction n with
  | zero => exact le_rfl
  | succ n ih => exact (step_weight (run_inv hinv n)).trans ih

/-- Too light to be the whole stream, the thread never hands over all of its frames. -/
theorem not_handsOver_of_weight {fs : List Frame} {m : Nat}
    (h : (run σ (start (Frame.stream fs)) m).weight < (Frame.stream fs).length) :
    ¬ HandsOver σ (Frame.stream fs) (fs.map Frame.bytes) := by
  intro h
  obtain ⟨N, hN⟩ := h
  have hq := hN (m + N) (Nat.le_add_left _ _)
  have hw := run_weight (σ := σ) (run_inv (σ := σ) (inv_start (Frame.stream fs)) m) N
  rw [← run_add] at hw
  unfold weight at hw
  rw [hq, ← List.flatMap_def] at hw
  have hall : (Frame.stream fs).length = (fs.flatMap Frame.bytes).length := rfl
  unfold weight at h
  omega

/-! ## A short peek -/

/-- The peek for a signature comes back with bytes while there are any. -/
theorem peeked_returned_ne_zero (σ : Splitting) (hl : st.Live) {b : UInt8} {rest : Bytes}
    (hk : st.kernel.unread = b :: rest) : (st.peeked σ.schedule).returned ≠ 0 := by
  have hpeek := receive_peek_returns σ.peekPos [] 16 (k := st.kernel)
    (by rw [hk]; exact List.cons_ne_nil _ _)
  unfold peeked
  rw [hl.socketIsValid]
  exact hpeek.trans_ne (Nat.succ_ne_zero 15)

/-- A first peek that is not answered in full costs the byte it looks at. -/
theorem iterate_short_peek (σ : Splitting) (hl : st.Live) {b : UInt8} {rest : Bytes}
    (hk : st.kernel.unread = b :: rest)
    (hans : σ.schedule.peek st.kernel.peeks 16 st.kernel.unread.length < 16) :
    ∃ k, st.iterate σ.schedule = { st with kernel := k } ∧ k.unread = rest := by
  have hret := peeked_returned_ne_zero σ hl hk
  have hdata : (st.peeked σ.schedule).data ≠ validSignature := by
    intro h
    have hfull := (receive_peek_word Signature.marker hret h).2
    exact Nat.not_lt.mpr hfull hans
  exact iterate_skip σ.deliversReads hl hk hret hdata

/-- The frames from the `i`-th on, as the first `m` of them and the rest. -/
theorem stream_take_drop (fs : List Frame) {i m : Nat} (him : i ≤ m) :
    Frame.stream ((fs.take m).drop i) ++ Frame.stream (fs.drop m) = Frame.stream (fs.drop i) := by
  unfold Frame.stream
  rw [← List.flatMap_append]
  congr 1
  rw [List.drop_take]
  have h := List.take_append_drop (m - i) (fs.drop i)
  rwa [List.drop_drop, Nat.add_sub_cancel' him] at h

/-- The first short peek at the start of a frame loses a frame. -/
theorem not_handsOver_of_short_peek (σ : Splitting) (fs : List Frame) {m : Nat}
    (hm : m < fs.length)
    (hfull : ∀ i, i < m → 16 ≤ σ.schedule.peek i 16 (Frame.stream (fs.drop i)).length)
    (hshort : σ.schedule.peek m 16 (Frame.stream (fs.drop m)).length < 16) :
    ¬ HandsOver σ.schedule (Frame.stream fs) (fs.map Frame.bytes) := by
  have hlen : (fs.take m).length = m := by
    rw [List.length_take]
    omega
  have hstream := stream_take_drop fs (Nat.zero_le m)
  rw [List.drop_zero, List.drop_zero] at hstream
  obtain ⟨k, hrun, hrest, hpeeks⟩ := run_frames σ.deliversReads (fs.take m)
    (Frame.stream (fs.drop m)) (live_start (Frame.stream fs)) hstream.symm (by
      intro i hi
      rw [hlen] at hi
      rw [stream_take_drop fs (le_of_lt hi)]
      exact (Nat.zero_add i).symm ▸ hfull i hi)
  rw [hlen] at hrun
  have hpeeks' : k.peeks = m := by
    rw [hpeeks, hlen]
    exact Nat.zero_add m
  -- the frame that is lost starts with some byte
  have hne : Frame.stream (fs.drop m) ≠ [] := by
    rw [List.drop_eq_getElem_cons hm, Frame.stream_cons]
    intro hnil
    exact headerBytes_ne_nil _ _ _ (List.append_eq_nil_iff.mp hnil).1
  obtain ⟨b, rest, hb⟩ := List.exists_cons_of_ne_nil hne
  have hl : (run σ.schedule (start (Frame.stream fs)) m).Live := by
    rw [hrun]
    exact ⟨rfl, rfl, rfl, rfl⟩
  have hunread : (run σ.schedule (start (Frame.stream fs)) m).kernel.unread = b :: rest := by
    rw [hrun]
    exact hrest.trans hb
  obtain ⟨k', heq, hrest'⟩ := iterate_short_peek σ hl hunread (by
    rw [hrun]
    show σ.schedule.peek k.peeks 16 k.unread.length < 16
    rw [hpeeks', hrest]
    exact hshort)
  refine not_handsOver_of_weight (m := m + 1) ?_
  have hall := congrArg List.length hstream
  rw [List.length_append, hb, List.length_cons] at hall
  rw [run, step_of_inLoop hl.inLoop, heq, hrun]
  unfold weight
  rw [hrest']
  show ((fs.take m).map Frame.bytes).flatten.length + rest.length < _
  rw [← List.flatMap_def]
  unfold Frame.stream at hall ⊢
  omega

/-- With every first peek answered in full, all frames are handed over. -/
theorem handsOver_of_full_peeks {σ : Schedule} (hσ : σ.DeliversReads) (fs : List Frame)
    (hfull : ∀ i, i < fs.length → 16 ≤ σ.peek i 16 (Frame.stream (fs.drop i)).length) :
    HandsOver σ (Frame.stream fs) (fs.map Frame.bytes) := by
  obtain ⟨k, hrun, hrest, -⟩ := run_frames hσ fs [] (live_start (Frame.stream fs))
    (List.append_nil _).symm (by
      intro i hi
      rw [List.append_nil]
      exact (Nat.zero_add i).symm ▸ hfull i hi)
  have hinv := run_inv (σ := σ) (inv_start (Frame.stream fs)) fs.length
  refine ⟨fs.length, fun n hn => ?_⟩
  obtain ⟨d, rfl⟩ := Nat.exists_eq_add_of_le hn
  rw [run_add, run_short hinv (by rw [hrun]; show k.unread.length < _; rw [hrest]; decide), hrun]
  rfl

/-- **When the splitting does not matter.** For any frames and any splitting, the thread hands
    over what it hands over of the unsplit stream if and only if the first peek at the start of
    each frame is answered in full. -/
theorem chunking_iff (fs : List Frame) (σ : Splitting) :
    (∀ out, HandsOver σ.schedule (Frame.stream fs) out ↔
      HandsOver Splitting.whole.schedule (Frame.stream fs) out) ↔
    ∀ i, i < fs.length → 16 ≤ σ.schedule.peek i 16 (Frame.stream (fs.drop i)).length := by
  have hwhole : HandsOver Splitting.whole.schedule (Frame.stream fs) (fs.map Frame.bytes) :=
    handsOver_of_deframes Schedule.whole_whole (deframes_stream fs)
  constructor
  · intro hsame
    by_contra hnot
    push Not at hnot
    -- the first frame whose peek is short
    obtain ⟨hm, hshort⟩ := Nat.find_spec hnot
    refine not_handsOver_of_short_peek σ fs hm (fun i hi => ?_) hshort ((hsame _).mpr hwhole)
    have h := Nat.find_min hnot hi
    push Not at h
    exact h (hi.trans hm)
  · intro hfull out
    have hσ := handsOver_of_full_peeks σ.deliversReads fs hfull
    refine ⟨fun h => ?_, fun h => ?_⟩
    · rw [h.unique hσ]
      exact hwhole
    · rw [h.unique hwhole]
      exact hσ

/-- One frame, two splittings: the splitting matters. -/
theorem chunking_matters :
    ¬ ∀ (fs : List Frame) (σ₁ σ₂ : Splitting) (out : List Bytes),
      HandsOver σ₁.schedule (Frame.stream fs) out ↔
        HandsOver σ₂.schedule (Frame.stream fs) out := by
  intro h
  let f : Frame := ⟨1, [], by decide⟩
  have hwhole : HandsOver Splitting.whole.schedule (Frame.stream [f]) ([f].map Frame.bytes) :=
    handsOver_of_deframes Schedule.whole_whole (deframes_stream [f])
  refine not_handsOver_of_weight (m := 1) ?_ ((h [f] Splitting.shortFirstPeek _ _).mpr hwhole)
  decide

end ReadThread

end Navtech.Network
