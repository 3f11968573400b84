/-
  Does the read thread notice that its connection is closed?

  `receive` folds end of stream, timeout and error into the count 0. The peek at the top of
  the loop answers a 0 with `continue`, the other receives with `break`: a close that is met
  by a peek is never noticed, one that is met by any other call is.

  Which call meets it is settled by the stream and the kernel (`PeekAtClose`): as long as the
  kernel answers, the stream is taken in pieces, a byte or a header with its payload, and a peek
  that is refused leaves it where it is. The close is missed exactly where it comes to a peek
  behind such pieces (`close_noticed_iff`, for any stream and kernel). Where the kernel hands
  over what is there, that is so unless the stream is cut inside a header or a payload
  (`close_position`).
-/
import Navtech.Network.Chunking

namespace Navtech.Network.ReadThread

variable {σ : Schedule} {st : ReadThread} {k k' : Kernel}

/-- The thread is at the top of its loop with the flags up and the state connected, although
    the last `recv` has handed over nothing and no later one will. -/
structure MissedClose (σ : Schedule) (st : ReadThread) : Prop where
  silent : st.kernel.silent = true
  closed : σ.Closed st.kernel
  inLoop : st.inLoop = true
  reading : st.reading = true
  running : st.running = true
  connected : st.connectionState = .connected

/-- A piece of the stream, with all calls for it answered: a byte where a peek does not show the
    signature, or else a header, with the payload that it announces if it can be accepted. -/
inductive Piece (σ : Schedule) (k : Kernel) : Kernel → Prop where
  | byte {look b : Bytes} {k₁ k₂ : Kernel} : Answered σ .peek validSignature.length k look k₁ →
      look ≠ validSignature → Answered σ .consume 1 k₁ b k₂ → Piece σ k k₂
  | passed {header : Bytes} {k₁ k₂ : Kernel} :
      Answered σ .peek validSignature.length k validSignature k₁ →
      Answered σ .consume Message.headerSize k₁ header k₂ → ¬ Acceptable header → Piece σ k k₂
  | frame {t : MessageType} {n : Nat} {payload : Bytes} {k₁ k₂ k₃ : Kernel} :
      Answered σ .peek validSignature.length k validSignature k₁ →
      Answered σ .consume Message.headerSize k₁ (headerBytes t n) k₂ → n < largestPayload →
      Answered σ .consume n k₂ payload k₃ → Piece σ k k₃

/-- Behind pieces of the stream, and peeks that were refused for a time, a peek is refused by a
    connection that is closed. -/
inductive PeekAtClose (σ : Schedule) : Kernel → Prop where
  | closed {k k' : Kernel} : Refused σ .peek validSignature.length k k' → σ.Closed k' →
      PeekAtClose σ k
  | quiet {k k' : Kernel} : Refused σ .peek validSignature.length k k' → PeekAtClose σ k' →
      PeekAtClose σ k
  | piece {k k' : Kernel} : Piece σ k k' → PeekAtClose σ k' → PeekAtClose σ k

/-! ## One trip -/

theorem validSignature_length_ne : validSignature.length ≠ 0 := by decide

theorem headerSize_ne : Message.headerSize ≠ 0 := by decide

/-- The calls for a header or a payload, or one of a peek, in the terms of the thread. -/
theorem peeked_answered {look : Bytes} (hl : st.Live)
    (h : Answered σ .peek validSignature.length st.kernel look k) :
    st.peeked σ = ⟨validSignature.length, look, k⟩ := by
  rw [peeked, hl.socketIsValid, receive_answered h, List.nil_append]

theorem headerReceived_answered {header : Bytes} (hl : st.Live)
    (h : Answered σ .consume Message.headerSize st.kernel header k) :
    st.headerReceived σ = ⟨Message.headerSize, header, k⟩ := by
  rw [headerReceived, hl.socketIsValid, receive_answered h, List.nil_append]

theorem payloadReceived_answered {n : Nat} {payload : Bytes} (hl : st.Live)
    (h : Answered σ .consume n (st.headerReceived σ).kernel payload k) :
    st.payloadReceived σ n = ⟨n, payload, k⟩ := by
  rw [payloadReceived, hl.socketIsValid, receive_answered h, List.nil_append]

/-- A peek that is refused is passed over. -/
theorem iterate_refused (hl : st.Live) (h : Refused σ .peek validSignature.length st.kernel k) :
    st.iterate σ = { st with kernel := k } := by
  obtain ⟨hzero, hkernel⟩ := receive_refused h []
  rw [← hl.socketIsValid, ← peeked] at hzero hkernel
  rw [iterate_quiet hl hzero, afterPeek, hkernel]

/-- A piece of the stream is taken. -/
theorem iterate_piece (hl : st.Live) (h : Piece σ st.kernel k) :
    ∃ queue, st.iterate σ = { st with kernel := k, receiveDataQueue := queue } := by
  cases h with
  | @byte look b k₁ _ hpeek hlook hbyte =>
    have hpeeked := peeked_answered hl hpeek
    have hdropped : st.dropReceived σ = ⟨1, look ++ b, k⟩ := by
      rw [dropReceived, hpeeked, hl.socketIsValid, receive_answered hbyte]
    refine ⟨st.receiveDataQueue, ?_⟩
    rw [iterate_drop hl (by rw [hpeeked]; exact validSignature_length_ne) (by rwa [hpeeked]),
      hdropped]
    exact if_neg Nat.one_ne_zero
  | @passed header k₁ _ hpeek hheader hnot =>
    have hpeeked := peeked_answered hl hpeek
    have hl' : ({ st with kernel := k₁ } : ReadThread).Live := hl.withKernel k₁
    have hreceived := headerReceived_answered hl' hheader
    have hhandled := handleData_reject hl' (by rw [hreceived]; exact headerSize_ne)
      (by rwa [hreceived])
    refine ⟨st.receiveDataQueue, ?_⟩
    rw [iterate_handle hl (by rw [hpeeked]; exact validSignature_length_ne) (by rw [hpeeked]),
      afterPeek, hpeeked,
      hhandled, hreceived]
    exact if_pos rfl
  | @frame t n payload k₁ k₂ _ hpeek hheader hn hpayload =>
    have hpeeked := peeked_answered hl hpeek
    have hl' : ({ st with kernel := k₁ } : ReadThread).Live := hl.withKernel k₁
    have hreceived := headerReceived_answered hl' hheader
    have hne : (({ st with kernel := k₁ } : ReadThread).headerReceived σ).returned ≠ 0 := by
      rw [hreceived]
      exact headerSize_ne
    rw [iterate_handle hl (by rw [hpeeked]; exact validSignature_length_ne) (by rw [hpeeked]),
      afterPeek, hpeeked]
    rcases Nat.eq_zero_or_pos n with rfl | hpos
    · obtain ⟨rfl, rfl⟩ := answered_zero hpayload
      rw [handleData_no_payload hl' hne (by rw [hreceived]), hreceived]
      exact ⟨_, if_pos rfl⟩
    · have hpayload' := payloadReceived_answered hl' (by rw [hreceived]; exact hpayload)
      rw [handleData_payload hl' hne (by rw [hreceived]) hpos.ne' hn, hpayload',
        if_neg hpos.ne']
      exact ⟨_, if_pos rfl⟩

theorem Piece.not_silent (h : Piece σ k k') : k'.silent = false := by
  cases h with
  | byte _ _ hbyte => exact hbyte.not_silent Nat.one_pos
  | passed _ hheader _ => exact hheader.not_silent (by decide)
  | @frame t n payload k₁ k₂ _ _ hheader _ hpayload =>
    rcases Nat.eq_zero_or_pos n with rfl | hpos
    · obtain ⟨-, rfl⟩ := answered_zero hpayload
      exact hheader.not_silent (by decide)
    · exact hpayload.not_silent hpos

/-- Where a call for a byte, a header or a payload is refused, the loop is left. -/
theorem iterate_cases (hl : st.Live) :
    (∃ k, Refused σ .peek validSignature.length st.kernel k) ∨ (∃ k, Piece σ st.kernel k) ∨
      (st.iterate σ).inLoop = false := by
  rcases answered_or_refused σ .peek _ validSignature.length st.kernel le_rfl with
    ⟨look, k₁, hpeek⟩ | hrefused
  · have hpeeked := peeked_answered hl hpeek
    have hne : (st.peeked σ).returned ≠ 0 := by
      rw [hpeeked]
      exact validSignature_length_ne
    by_cases hlook : look = validSignature
    · subst hlook
      have hl' : ({ st with kernel := k₁ } : ReadThread).Live := hl.withKernel k₁
      have hiterate := iterate_handle hl hne (by rw [hpeeked])
      rw [afterPeek, hpeeked] at hiterate
      rcases answered_or_refused σ .consume _ Message.headerSize k₁ le_rfl with
        ⟨header, k₂, hheader⟩ | ⟨k₂, hrefused⟩
      · have hreceived := headerReceived_answered hl' hheader
        by_cases hacc : Acceptable header
        · obtain ⟨t, n, hn, rfl⟩ := hacc
          rcases answered_or_refused σ .consume _ n k₂ le_rfl with
            ⟨payload, k₃, hpayload⟩ | ⟨k₃, hrefused⟩
          · exact .inr (.inl ⟨k₃, .frame hpeek hheader hn hpayload⟩)
          · refine .inr (.inr ?_)
            have hzero : (({ st with kernel := k₁ } : ReadThread).payloadReceived σ n).returned =
                0 := by
              rw [payloadReceived, hreceived, hl'.socketIsValid]
              exact (receive_refused hrefused []).1
            rw [handleData_payload hl' (by rw [hreceived]; exact headerSize_ne)
              (by rw [hreceived]) hrefused.pos.ne' hn, if_pos hzero, if_neg Bool.false_ne_true]
              at hiterate
            rw [hiterate]
            rfl
        · exact .inr (.inl ⟨k₂, .passed hpeek hheader hacc⟩)
      · refine .inr (.inr ?_)
        obtain ⟨hzero, -⟩ := receive_refused hrefused []
        rw [handleData_failed hl' (by rw [headerReceived, hl'.socketIsValid]; exact hzero),
          if_neg Bool.false_ne_true] at hiterate
        rw [hiterate]
        rfl
    · rcases answered_or_refused σ .consume _ 1 k₁ le_rfl with ⟨b, k₂, hbyte⟩ | ⟨k₂, hrefused⟩
      · exact .inr (.inl ⟨k₂, .byte hpeek hlook hbyte⟩)
      · refine .inr (.inr ?_)
        obtain ⟨hzero, -⟩ := receive_refused hrefused look
        rw [iterate_drop hl hne (by rwa [hpeeked]), dropReceived, hpeeked, hl.socketIsValid,
          if_pos hzero]
        rfl
  · exact .inl hrefused

/-! ## Trips and runs -/

/-- A trip whose peek is refused by a closed connection misses the close. -/
theorem missedClose_of_peek (hinv : st.Inv) (hin : st.inLoop = true)
    (h : Refused σ .peek validSignature.length st.kernel k) (hclosed : σ.Closed k) :
    MissedClose σ (st.step σ) := by
  obtain ⟨hl, hc⟩ := hinv hin
  rw [step_of_inLoop hin, iterate_refused hl h]
  exact ⟨h.silent, hclosed, hin, hl.reading, hl.running, hc⟩

/-- A thread that comes to a peek at the close misses it. -/
theorem missedClose_of_peekAtClose (h : PeekAtClose σ k) :
    ∀ {st : ReadThread}, st.Inv → st.inLoop = true → st.kernel = k →
      ∃ n, MissedClose σ (run σ st n) := by
  induction h with
  | closed hrefused hclosed =>
    intro st hinv hin hk
    exact ⟨1, missedClose_of_peek hinv hin (hk ▸ hrefused) hclosed⟩
  | quiet hrefused _ ih =>
    intro st hinv hin hk
    have hl := (hinv hin).1
    have hstep := iterate_refused hl (hk ▸ hrefused)
    have hinv' := step_inv (σ := σ) hinv
    rw [step_of_inLoop hin, hstep] at hinv'
    obtain ⟨n, hn⟩ := ih hinv' hin rfl
    rw [← hstep, ← run_one_add hl] at hn
    exact ⟨1 + n, hn⟩
  | piece hpiece _ ih =>
    intro st hinv hin hk
    have hl := (hinv hin).1
    obtain ⟨queue, hstep⟩ := iterate_piece hl (hk ▸ hpiece)
    have hinv' := step_inv (σ := σ) hinv
    rw [step_of_inLoop hin, hstep] at hinv'
    obtain ⟨n, hn⟩ := ih hinv' hin rfl
    rw [← hstep, ← run_one_add hl] at hn
    exact ⟨1 + n, hn⟩

/-- A close that is missed later on is one that a peek comes to. -/
theorem peekAtClose_of_missedClose (n : Nat) :
    ∀ {st : ReadThread}, st.Inv → st.inLoop = true → ¬ MissedClose σ st →
      MissedClose σ (run σ st n) → PeekAtClose σ st.kernel := by
  induction n with
  | zero => exact fun _ _ hnot h => absurd h hnot
  | succ n ih =>
    intro st hinv hin hnot h
    have hl := (hinv hin).1
    have hinv' := step_inv (σ := σ) hinv
    rw [step_of_inLoop hin] at hinv'
    rw [Nat.add_comm, run_one_add hl] at h
    rcases iterate_cases (σ := σ) hl with ⟨k, hrefused⟩ | ⟨k, hpiece⟩ | hleft
    · rw [iterate_refused hl hrefused] at h hinv'
      by_cases hclosed : σ.Closed k
      · exact .closed hrefused hclosed
      · exact .quiet hrefused (ih hinv' hin (fun hmissed => hclosed hmissed.closed) h)
    · obtain ⟨queue, hstep⟩ := iterate_piece hl hpiece
      rw [hstep] at h hinv'
      refine .piece hpiece (ih hinv' hin (fun hmissed => ?_) h)
      exact Bool.false_ne_true (hpiece.not_silent.symm.trans hmissed.silent)
    · -- a trip that leaves the loop is the last one
      rw [run_of_left hleft] at h
      exact absurd (hleft.symm.trans h.inLoop) Bool.false_ne_true

/-- Once missed, the close is missed for good. -/
theorem run_missedClose (hinv : st.Inv) (h : MissedClose σ st) (n : Nat) :
    MissedClose σ (run σ st n) := by
  induction n with
  | zero => exact h
  | succ n ih =>
    obtain ⟨k, hrefused, hclosed⟩ := refused_of_closed ih.closed
      (Nat.pos_of_ne_zero validSignature_length_ne)
    exact missedClose_of_peek (run_inv hinv n) ih.inLoop hrefused hclosed

/-- With less than a signature unread, the thread drops what is left and misses the close. -/
theorem missedClose_of_few (σ : Splitting) (hinv : st.Inv) (hin : st.inLoop = true)
    (hfew : st.kernel.unread.length < validSignature.length) :
    ∃ n, MissedClose σ.schedule (run σ.schedule st n) := by
  obtain ⟨hl, -⟩ := hinv hin
  generalize hk : st.kernel.unread = unread at hfew
  induction unread generalizing st with
  | nil =>
    obtain ⟨k, hrefused, hclosed⟩ := refused_of_closed (σ := σ.schedule) (Or.inl hk)
      (Nat.pos_of_ne_zero validSignature_length_ne)
    exact ⟨1, missedClose_of_peek hinv hin hrefused hclosed⟩
  | cons b rest ih =>
    have hret := peeked_returned_ne_zero σ hl hk
    have hdata := peeked_data_ne hret (σ := σ.schedule) (fun hsig => by
      have hle := hsig.length_le
      rw [hk] at hle
      omega)
    obtain ⟨k, heq, hrest⟩ := iterate_skip σ.deliversReads hl hk hret hdata
    have hinv' := step_inv (σ := σ.schedule) hinv
    rw [step_of_inLoop hin, heq] at hinv'
    obtain ⟨n, hn⟩ := ih hinv' hin (hl.withKernel k) hrest
      (Nat.lt_of_succ_lt hfew)
    refine ⟨1 + n, ?_⟩
    rw [run_one_add hl, heq]
    exact hn

/-- **Where a closed connection is noticed**: after `stream`, on a kernel that hands over what
    is there, the close is noticed if and only if it cuts the stream inside a header or a
    payload. -/
theorem close_position (σ : Splitting) (hσ : σ.schedule.Whole) {stream : Bytes}
    {fs : List Frame} {t : Bytes} (h : Deframes stream fs t) :
    (∀ n, ¬ MissedClose σ.schedule (run σ.schedule (start stream) n)) ↔ t ≠ [] := by
  obtain ⟨m, hl, -, ht⟩ := delivers_of_deframes hσ h (live_start stream) rfl
  have hinv := run_inv (σ := σ.schedule) (inv_start stream) m
  rcases ht with ⟨hnil, hfew⟩ | ⟨hne, hrest⟩
  · obtain ⟨n, hn⟩ := missedClose_of_few σ hinv hl.inLoop hfew
    rw [← run_add] at hn
    exact ⟨fun hnever => absurd hn (hnever _), fun hne => absurd hnil hne⟩
  · refine ⟨fun _ => hne, fun _ n hmissed => ?_⟩
    -- the trip after the last frame leaves the loop, so that no earlier state missed the close
    have hpeek := (hσ (run σ.schedule (start stream) m).kernel.peeks 16 _
      (h.cut_rest.signature_prefix hne).length_le).1
    obtain ⟨k, heq⟩ := iterate_cut σ.deliversReads hl (by rw [hrest]; exact h.cut_rest)
      (by rw [hrest]; exact hne) (by rw [hrest]; exact hpeek)
    have hlate := run_missedClose (run_inv (inv_start stream) n) hmissed (m + 1)
    rw [← run_add, Nat.add_comm, run_add, run, step_of_inLoop hl.inLoop, heq,
      run_of_left rfl] at hlate
    exact absurd hlate.inLoop Bool.false_ne_true

end Navtech.Network.ReadThread
