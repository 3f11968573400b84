/-
  Trips of the read thread on a kernel that delivers: what `Trip` leaves open is fixed when
  the peek is answered in full and the reads hand over bytes that are there.

  There is one lemma for each shape the unread bytes can have at the top of the loop: a frame,
  a header that announces nothing acceptable, a stream cut inside a frame, a byte where no
  signature starts. The induction over the frames of a stream is in the next module.
-/
import Navtech.Network.ReadThread

namespace Navtech.Network.ReadThread

variable {σ : Schedule} {st : ReadThread}

/-! ## The peek -/

/-- A peek answered in full by its first call. -/
theorem peeked_full (hl : st.Live) (havail : 16 ≤ st.kernel.unread.length)
    (hans : 16 ≤ σ.peek st.kernel.peeks 16 st.kernel.unread.length) :
    st.peeked σ = ⟨16, st.kernel.unread.take 16,
      { st.kernel with peeks := st.kernel.peeks + 1, silent := false }⟩ := by
  rw [peeked, hl.socketIsValid]
  exact receive_peek_full (by decide) hans havail

/-- A peek shows the signature only where one starts. -/
theorem peeked_data_ne (hret : (st.peeked σ).returned ≠ 0)
    (hsig : ¬ validSignature <+: st.kernel.unread) : (st.peeked σ).data ≠ validSignature :=
  fun h => hsig (receive_peek_word Signature.marker hret h).1

/-! ## `handle_data` -/

/-- A read of bytes that are there. -/
theorem received_append (hσ : σ.DeliversReads) (hl : st.Live) (data : Bytes) {buf rest : Bytes}
    {k : Kernel} (hk : k.unread = buf ++ rest) :
    (receive σ st.socketIsValid data buf.length .consume k).returned = buf.length ∧
      (receive σ st.socketIsValid data buf.length .consume k).data = data ++ buf ∧
      (receive σ st.socketIsValid data buf.length .consume k).kernel.unread = rest ∧
      (receive σ st.socketIsValid data buf.length .consume k).kernel.peeks = k.peeks := by
  rw [hl.socketIsValid]
  exact receive_consume_append hσ data hk

/-- The read of a header that is there. -/
theorem headerReceived_eq (hσ : σ.DeliversReads) (hl : st.Live) {header rest : Bytes}
    (hlen : header.length = Message.headerSize) (hk : st.kernel.unread = header ++ rest) :
    (st.headerReceived σ).returned ≠ 0 ∧ (st.headerReceived σ).data = header ∧
      (st.headerReceived σ).kernel.unread = rest ∧
      (st.headerReceived σ).kernel.peeks = st.kernel.peeks := by
  have h := received_append hσ hl [] hk
  rw [hlen] at h
  obtain ⟨hret, hdata, hrest, hpeeks⟩ := h
  rw [← headerReceived] at hret hdata hrest hpeeks
  refine ⟨?_, hdata, hrest, hpeeks⟩
  rw [hret]
  decide

/-- `handle_data` on a frame. -/
theorem handleData_frame (hσ : σ.DeliversReads) (hl : st.Live) (f : Frame) {rest : Bytes}
    (hk : st.kernel.unread = f.bytes ++ rest) :
    ∃ k, st.handleData σ = (true, ({ st with kernel := k }).enqueue f.bytes) ∧
      k.unread = rest ∧ k.peeks = st.kernel.peeks := by
  obtain ⟨t, payload, hsmall⟩ := f
  rw [Frame.bytes_eq, List.append_assoc] at hk
  obtain ⟨hret, hdata, hrest, hpeeks⟩ := headerReceived_eq hσ hl (length_headerBytes _ _) hk
  by_cases hzero : payload.length = 0
  · have hnil := List.eq_nil_of_length_eq_zero hzero
    subst hnil
    exact ⟨_, handleData_no_payload hl hret hdata, hrest, hpeeks⟩
  · have h := received_append hσ hl [] hrest
    rw [← payloadReceived] at h
    obtain ⟨hret', hdata', hrest', hpeeks'⟩ := h
    have hret0 : (st.payloadReceived σ payload.length).returned ≠ 0 := by
      rw [hret']
      exact hzero
    refine ⟨_, ?_, hrest', hpeeks'.trans hpeeks⟩
    rw [handleData_payload hl hret hdata hzero hsmall, if_neg hret0, hdata']
    rfl

/-- `handle_data` on a stream cut inside a frame. -/
theorem handleData_cut (hσ : σ.DeliversReads) (hl : st.Live) (hcut : Cut st.kernel.unread) :
    ∃ k, st.handleData σ =
      (false, { st with kernel := k, connectionState := .disconnected }) := by
  by_cases hshort : st.kernel.unread.length < Message.headerSize
  · have hret : (st.headerReceived σ).returned = 0 := by
      by_contra hne
      obtain ⟨buf, hsplit, hlen, -⟩ := received_of_ne_zero hne
      have hl := congrArg List.length hsplit
      rw [List.length_append] at hl
      omega
    exact ⟨_, handleData_failed hl hret⟩
  · generalize hs : st.kernel.unread = s at hcut hshort
    cases hcut with
    | nil => exact absurd (by decide) hshort
    | header _ h => exact absurd h hshort
    | @payload t n rest hn hrest =>
      obtain ⟨hret, hdata, hrest', -⟩ := headerReceived_eq hσ hl (length_headerBytes _ _) hs
      have hret0 : (st.payloadReceived σ n).returned = 0 := by
        by_contra hne
        obtain ⟨buf, hsplit, hlen, -⟩ := received_of_ne_zero hne
        have hl := congrArg List.length hsplit
        rw [hrest', List.length_append] at hl
        omega
      refine ⟨_, (handleData_payload hl hret hdata (by omega) hn).trans (if_pos hret0)⟩

/-! ## One trip -/

/-- The trip at a place where a signature starts, with the peek answered in full. -/
theorem iterate_signature (hl : st.Live) (hsig : validSignature <+: st.kernel.unread)
    (hans : 16 ≤ σ.peek st.kernel.peeks 16 st.kernel.unread.length) :
    ∃ k, k.unread = st.kernel.unread ∧ k.peeks = st.kernel.peeks + 1 ∧
      st.iterate σ =
        if (({ st with kernel := k } : ReadThread).handleData σ).1 = true then
          (({ st with kernel := k } : ReadThread).handleData σ).2
        else ((({ st with kernel := k } : ReadThread).handleData σ).2).failed := by
  have hpeek := peeked_full hl hsig.length_le hans
  have hret : (st.peeked σ).returned ≠ 0 := by
    rw [hpeek]
    exact Nat.succ_ne_zero 15
  have hdata : (st.peeked σ).data = validSignature := by
    rw [hpeek]
    exact (List.prefix_iff_eq_take.mp hsig).symm
  refine ⟨(st.peeked σ).kernel, peeked_unread σ st, ?_, iterate_handle hl hret hdata⟩
  rw [hpeek]

theorem iterate_frame (hσ : σ.DeliversReads) (hl : st.Live) (f : Frame) {rest : Bytes}
    (hk : st.kernel.unread = f.bytes ++ rest)
    (hans : 16 ≤ σ.peek st.kernel.peeks 16 st.kernel.unread.length) :
    ∃ k, st.iterate σ = ({ st with kernel := k }).enqueue f.bytes ∧ k.unread = rest ∧
      k.peeks = st.kernel.peeks + 1 := by
  have hsig : validSignature <+: st.kernel.unread := by
    rw [hk]
    exact f.signature_prefix.trans (List.prefix_append _ _)
  obtain ⟨k₀, hunread, hpeeks, heq⟩ := iterate_signature hl hsig hans
  obtain ⟨k, hhandle, hrest, hpeeks'⟩ :=
    handleData_frame hσ (hl.withKernel k₀) f (hunread.trans hk)
  rw [hhandle, if_pos rfl] at heq
  exact ⟨k, heq, hrest, hpeeks'.trans hpeeks⟩

theorem iterate_reject (hσ : σ.DeliversReads) (hl : st.Live) {header rest : Bytes}
    (hlen : header.length = Message.headerSize) (hsig : validSignature <+: header)
    (hacc : ¬ Acceptable header) (hk : st.kernel.unread = header ++ rest)
    (hans : 16 ≤ σ.peek st.kernel.peeks 16 st.kernel.unread.length) :
    ∃ k, st.iterate σ = { st with kernel := k } ∧ k.unread = rest := by
  have hsig' : validSignature <+: st.kernel.unread := by
    rw [hk]
    exact hsig.trans (List.prefix_append _ _)
  obtain ⟨k₀, hunread, -, heq⟩ := iterate_signature hl hsig' hans
  obtain ⟨hret, hdata, hrest, -⟩ :=
    headerReceived_eq hσ (hl.withKernel k₀) hlen (hunread.trans hk)
  rw [handleData_reject (hl.withKernel k₀) hret (by rw [hdata]; exact hacc), if_pos rfl] at heq
  exact ⟨_, heq, hrest⟩

/-- Cut inside a header or a payload, the stream makes the thread leave its loop. -/
theorem iterate_cut (hσ : σ.DeliversReads) (hl : st.Live) (hcut : Cut st.kernel.unread)
    (hne : st.kernel.unread ≠ [])
    (hans : 16 ≤ σ.peek st.kernel.peeks 16 st.kernel.unread.length) :
    ∃ k, st.iterate σ = ({ st with kernel := k }).failed := by
  obtain ⟨k₀, hunread, -, heq⟩ := iterate_signature hl (hcut.signature_prefix hne) hans
  obtain ⟨k, hhandle⟩ := handleData_cut hσ (hl.withKernel k₀) (by rw [hunread]; exact hcut)
  rw [hhandle, if_neg Bool.false_ne_true] at heq
  exact ⟨k, heq⟩

/-- A byte where the peek shows no signature is dropped. -/
theorem iterate_skip (hσ : σ.DeliversReads) (hl : st.Live) {b : UInt8} {rest : Bytes}
    (hk : st.kernel.unread = b :: rest) (hret : (st.peeked σ).returned ≠ 0)
    (hsig : (st.peeked σ).data ≠ validSignature) :
    ∃ k, st.iterate σ = { st with kernel := k } ∧ k.unread = rest := by
  obtain ⟨hret', -, hrest, -⟩ := received_append hσ hl (st.peeked σ).data
    (show (st.peeked σ).kernel.unread = [b] ++ rest from (peeked_unread σ st).trans hk)
  have hdrop : (st.dropReceived σ).returned ≠ 0 := by
    rw [dropReceived]
    exact hret'.trans_ne Nat.one_ne_zero
  exact ⟨_, (iterate_drop hl hret hsig).trans (if_neg hdrop), hrest⟩

end Navtech.Network.ReadThread
