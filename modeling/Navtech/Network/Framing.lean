/-
  The framing of a stream by the read thread, over whole runs.

  Soundness (`framing_sound`): whatever the stream and whatever the kernel answers, the
  buffers handed over are frames cut out of the stream one behind the other. It is the run
  form of `Trip`; every trip that goes on takes at least one byte.

  Completeness (`framing_complete`): on a kernel that hands over what is there, a stream of
  frames with junk in between yields exactly its frames. `delivers_of_deframes` is the
  induction, along the derivation of the frames of a stream; `deframes_segments` supplies the
  derivation.
-/
import Navtech.Network.Delivery

namespace Navtech.Network.ReadThread

variable {σ : Schedule} {st : ReadThread}

/-- From some trip on, `out` is what the thread has handed over of `stream`. -/
def HandsOver (σ : Schedule) (stream : Bytes) (out : List Bytes) : Prop :=
  ∃ N, ∀ n, N ≤ n → (run σ (start stream) n).receiveDataQueue = out

/-! ## Soundness -/

/-- The bytes consumed from `stream`: frames, in order, each behind the bytes skipped before
    it, and the bytes skipped since the last one. -/
def consumedBytes (pieces : List (Bytes × Frame)) (skipped : Bytes) : Bytes :=
  (pieces.flatMap fun p => p.1 ++ p.2.bytes) ++ skipped

theorem consumedBytes_concat (pieces : List (Bytes × Frame)) (skipped : Bytes) (f : Frame) :
    consumedBytes (pieces ++ [(skipped, f)]) [] = consumedBytes pieces skipped ++ f.bytes := by
  simp [consumedBytes]

/-- The stream is what has been consumed and what is unread, and the frames among the consumed
    bytes have been handed over. -/
def Framed (stream : Bytes) (st : ReadThread) : Prop :=
  ∃ pieces skipped, stream = consumedBytes pieces skipped ++ st.kernel.unread ∧
    st.receiveDataQueue = pieces.map fun p => p.2.bytes

theorem framed_start (stream : Bytes) : Framed stream (start stream) := ⟨[], [], rfl, rfl⟩

theorem Framed.skip {stream : Bytes} (h : Framed stream st) {taken : Bytes} {st' : ReadThread}
    (hsplit : st.kernel.unread = taken ++ st'.kernel.unread)
    (hq : st'.receiveDataQueue = st.receiveDataQueue) : Framed stream st' := by
  obtain ⟨pieces, skipped, hs, hqueue⟩ := h
  refine ⟨pieces, skipped ++ taken, ?_, hq.trans hqueue⟩
  rw [hs, hsplit]
  simp [consumedBytes]

theorem Framed.frame {stream : Bytes} (h : Framed stream st) (f : Frame) {k : Kernel}
    (hsplit : st.kernel.unread = f.bytes ++ k.unread) :
    Framed stream (({ st with kernel := k }).enqueue f.bytes) := by
  obtain ⟨pieces, skipped, hs, hqueue⟩ := h
  refine ⟨pieces ++ [(skipped, f)], [], ?_, ?_⟩
  · rw [hs, hsplit, consumedBytes_concat, List.append_assoc]
    rfl
  · show st.receiveDataQueue ++ [f.bytes] = _
    rw [hqueue, List.map_append]
    rfl

theorem step_framed {stream : Bytes} (hinv : st.Inv) (h : Framed stream st) :
    Framed stream (st.step σ) := by
  refine step_rule hinv h fun _ _ htrip => ?_
  cases htrip with
  | quiet _ =>
    have hsplit : st.kernel.unread = [] ++ (st.peeked σ).kernel.unread :=
      (peeked_unread σ st).symm
    exact h.skip hsplit rfl
  | skipped _ _ hsplit _ => exact h.skip hsplit rfl
  | framed f _ hsplit _ => exact h.frame f hsplit
  | left _ hsplit => exact h.skip hsplit rfl

theorem run_framed (σ : Schedule) (stream : Bytes) (n : Nat) :
    Framed stream (run σ (start stream) n) := by
  induction n with
  | zero => exact framed_start stream
  | succ n ih => exact step_framed (run_inv (inv_start stream) n) ih

/-- A trip that stays in the loop and saw no empty receive has taken bytes off the stream. -/
theorem step_progress (hinv : st.Inv) (hin : st.inLoop = true)
    (hstay : (st.step σ).inLoop = true) (hret : (st.peeked σ).returned ≠ 0) :
    ∃ taken, taken ≠ [] ∧ st.kernel.unread = taken ++ (st.step σ).kernel.unread := by
  have htrip := iterate_trip (σ := σ) (hinv hin).1
  rw [step_of_inLoop hin] at hstay ⊢
  generalize st.iterate σ = st' at htrip hstay
  cases htrip with
  | quiet h0 => exact absurd h0 hret
  | skipped _ hne hsplit _ => exact ⟨_, hne, hsplit⟩
  | framed f _ hsplit _ =>
    exact ⟨_, headerBytes_ne_nil f.type f.payload.length f.payload, hsplit⟩
  | left _ _ => exact absurd hstay Bool.false_ne_true

/-- **Framing is sound** for any stream and any kernel. After any number of trips the stream
    splits into skipped bytes, frames and unread bytes such that the buffers handed over are
    the frames, in order; and a trip that neither leaves the loop nor sees an empty receive
    takes at least one byte. -/
theorem framing_sound (σ : Schedule) (stream : Bytes) (n : Nat) :
    (∃ (pieces : List (Bytes × Frame)) (skipped : Bytes),
      stream = (pieces.flatMap fun p => p.1 ++ p.2.bytes) ++ skipped ++
        (run σ (start stream) n).kernel.unread ∧
      (run σ (start stream) n).receiveDataQueue = pieces.map fun p => p.2.bytes) ∧
    ((run σ (start stream) n).inLoop = true → (run σ (start stream) (n + 1)).inLoop = true →
      ((run σ (start stream) n).peeked σ).returned ≠ 0 →
      ∃ taken, taken ≠ [] ∧ (run σ (start stream) n).kernel.unread =
        taken ++ (run σ (start stream) (n + 1)).kernel.unread) :=
  ⟨run_framed σ stream n, step_progress (run_inv (inv_start stream) n)⟩

/-! ## Completeness -/

theorem run_one_add (hl : st.Live) (n : Nat) :
    run σ st (1 + n) = run σ (st.iterate σ) n := by
  rw [run_add]
  exact congrArg (fun s => run σ s n) (step_of_inLoop hl.inLoop)

/-- A thread that has fewer unread bytes than a header hands over nothing more. -/
theorem run_short (hinv : st.Inv) (hshort : st.kernel.unread.length < Message.headerSize)
    (n : Nat) : (run σ st n).receiveDataQueue = st.receiveDataQueue := by
  have key : (run σ st n).receiveDataQueue = st.receiveDataQueue ∧
      (run σ st n).kernel.unread.length < Message.headerSize := by
    induction n with
    | zero => exact ⟨rfl, hshort⟩
    | succ n ih =>
      obtain ⟨hq, hlen⟩ := ih
      have hinv' := run_inv (σ := σ) hinv n
      rw [run]
      generalize run σ st n = s at hq hlen hinv'
      refine step_rule (P := fun s' => s'.receiveDataQueue = st.receiveDataQueue ∧
        s'.kernel.unread.length < Message.headerSize) hinv' ⟨hq, hlen⟩ fun _ _ htrip => ?_
      cases htrip with
      | quiet _ => exact ⟨hq, by rw [peeked_unread]; exact hlen⟩
      | skipped _ _ hsplit _ | left _ hsplit =>
        rw [hsplit, List.length_append] at hlen
        exact ⟨hq, Nat.lt_of_le_of_lt (Nat.le_add_left _ _) hlen⟩
      | framed f _ hsplit _ =>
        rw [hsplit, List.length_append, Frame.length_bytes] at hlen
        omega
  exact key.1

/-- After some trips the thread has handed over `fs`, and either less than a signature is
    unread, or the stream is cut inside a frame, with `t` unread. -/
def Delivers (σ : Schedule) (st : ReadThread) (fs : List Frame) (t : Bytes) : Prop :=
  ∃ n, (run σ st n).Live ∧
    (run σ st n).receiveDataQueue = st.receiveDataQueue ++ fs.map Frame.bytes ∧
    (t = [] ∧ (run σ st n).kernel.unread.length < validSignature.length ∨
      t ≠ [] ∧ (run σ st n).kernel.unread = t)

/-- A trip that hands over nothing comes before. -/
theorem Delivers.skip {k : Kernel} {fs : List Frame} {t : Bytes} (hl : st.Live)
    (heq : st.iterate σ = { st with kernel := k })
    (h : Delivers σ { st with kernel := k } fs t) : Delivers σ st fs t := by
  obtain ⟨n, hl', hq, ht⟩ := h
  rw [← heq, ← run_one_add hl] at hl' hq ht
  refine ⟨1 + n, hl', hq.trans ?_, ht⟩
  rw [heq]

/-- A trip that hands over a frame comes before. -/
theorem Delivers.frame {k : Kernel} {f : Frame} {fs : List Frame} {t : Bytes} (hl : st.Live)
    (heq : st.iterate σ = ({ st with kernel := k }).enqueue f.bytes)
    (h : Delivers σ (({ st with kernel := k }).enqueue f.bytes) fs t) :
    Delivers σ st (f :: fs) t := by
  obtain ⟨n, hl', hq, ht⟩ := h
  rw [← heq, ← run_one_add hl] at hl' hq ht
  refine ⟨1 + n, hl', hq.trans ?_, ht⟩
  rw [heq]
  exact List.append_assoc _ _ _

/-- The trips along the frames of a stream, by induction on why these are its frames. -/
theorem delivers_of_deframes (hσ : σ.Whole) {s : Bytes} {fs : List Frame} {t : Bytes}
    (h : Deframes s fs t) (hl : st.Live) (hk : st.kernel.unread = s) : Delivers σ st fs t := by
  have hreads := hσ.deliversReads
  induction h generalizing st with
  | @cut s hcut =>
    refine ⟨0, hl, (List.append_nil _).symm, ?_⟩
    by_cases hnil : s = []
    · exact Or.inl ⟨hnil, by rw [run, hk, hnil]; decide⟩
    · exact Or.inr ⟨hnil, hk⟩
  | @frame f rest fs t _ ih =>
    have hlen := f.length_bytes
    obtain ⟨k, heq, hrest, -⟩ := iterate_frame hreads hl f hk
      (hσ st.kernel.peeks 16 st.kernel.unread.length (by
        rw [hk, List.length_append, hlen]
        unfold Message.headerSize
        omega)).1
    exact .frame hl heq (ih ⟨hl.inLoop, hl.socketIsValid, hl.reading, hl.running⟩ hrest)
  | @skip b rest fs t hmiss hd ih =>
    by_cases hfew : (b :: rest).length < validSignature.length
    · -- too few bytes for another frame
      obtain ⟨hfs, ht⟩ := (Deframes.skip hmiss hd).eq_nil hfew
      rw [hfs]
      exact ⟨0, hl, (List.append_nil _).symm, Or.inl ⟨ht, by rw [run, hk]; exact hfew⟩⟩
    · have havail : 16 ≤ st.kernel.unread.length := by
        rw [hk]
        exact Nat.le_of_not_lt hfew
      have hpeek := peeked_full hl havail (hσ _ _ _ havail).1
      have hret : (st.peeked σ).returned ≠ 0 := by
        rw [hpeek]
        exact Nat.succ_ne_zero 15
      obtain ⟨k, heq, hrest⟩ := iterate_skip hreads hl hk hret
        (peeked_data_ne hret (by rw [hk]; exact hmiss))
      exact .skip hl heq (ih (hl.withKernel k) hrest)
  | @reject header rest fs t hlen hsig hacc _ ih =>
    obtain ⟨k, heq, hrest⟩ := iterate_reject hreads hl hlen hsig hacc hk
      (hσ st.kernel.peeks 16 st.kernel.unread.length (by
        rw [hk, List.length_append, hlen]
        unfold Message.headerSize
        omega)).1
    exact .skip hl heq (ih (hl.withKernel k) hrest)

/-- On a kernel that hands over what is there, the thread hands over the frames of the
    stream. -/
theorem handsOver_of_deframes (hσ : σ.Whole) {s : Bytes} {fs : List Frame} {t : Bytes}
    (h : Deframes s fs t) : HandsOver σ s (fs.map Frame.bytes) := by
  obtain ⟨m, hl, hq, ht⟩ := delivers_of_deframes hσ h (live_start s) rfl
  have hinv := run_inv (σ := σ) (inv_start s) m
  suffices hstay : ∃ N, ∀ n, (run σ (run σ (start s) m) (N + n)).receiveDataQueue =
      (run σ (start s) m).receiveDataQueue by
    obtain ⟨N, hN⟩ := hstay
    refine ⟨m + N, fun n hn => ?_⟩
    obtain ⟨d, rfl⟩ := Nat.exists_eq_add_of_le hn
    rw [Nat.add_assoc, run_add, hN, hq]
    rfl
  generalize run σ (start s) m = st at hl hq ht hinv
  by_cases hshort : st.kernel.unread.length < Message.headerSize
  · exact ⟨0, fun n => run_short hinv hshort (0 + n)⟩
  · obtain ⟨-, hfew⟩ | ⟨hne, hrest⟩ := ht
    · exact absurd (hfew.trans (by decide)) hshort
    · -- a whole header is there: the payload is cut, and the thread leaves its loop
      have havail : 16 ≤ st.kernel.unread.length := by
        unfold Message.headerSize at hshort
        omega
      obtain ⟨k, heq⟩ := iterate_cut hσ.deliversReads hl (by rw [hrest]; exact h.cut_rest)
        (by rw [hrest]; exact hne) (hσ _ _ _ havail).1
      refine ⟨1, fun n => ?_⟩
      rw [run_one_add hl, heq, run_of_left rfl]
      rfl

/-- **Framing is complete**: of `g₀ f₁ g₁ … f_k g_k`, with no signature inside any `g_i`, the
    thread hands over `f₁, …, f_k`, in order, once each, byte for byte. -/
theorem framing_complete (hσ : σ.Whole) (junk : Bytes) (rest : List (Frame × Bytes))
    (hjunk : ¬ validSignature <:+: junk) (hrest : ∀ p ∈ rest, ¬ validSignature <:+: p.2) :
    HandsOver σ (segments junk rest) (rest.map fun p => p.1.bytes) := by
  have h := handsOver_of_deframes hσ (deframes_segments junk rest hjunk hrest)
  rwa [List.map_map] at h

/-- Two junk bytes, a frame of type 1 with two payload bytes, and a junk byte. -/
theorem framing_complete_one : HandsOver Schedule.whole
    ([5, 0] ++ ((⟨1, [7, 8], by decide⟩ : Frame).bytes ++ [9]))
    [(⟨1, [7, 8], by decide⟩ : Frame).bytes] :=
  framing_complete Schedule.whole_whole [5, 0] [(⟨1, [7, 8], by decide⟩, [9])] (by decide)
    (by decide)

end Navtech.Network.ReadThread
