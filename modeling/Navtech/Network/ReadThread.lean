/-
  The read thread of `cpp_17/network/tcp_radar_client.cpp`: `read_thread_handler` and
  `handle_data`, run against a kernel with any schedule.

  The state is what the thread touches: the socket (the kernel's side and `is_valid()`), the
  flags `reading` and `running`, the stored connection state, and the buffers it has handed to
  `receive_data_queue.enqueue`, oldest first. `iterate` is one trip around the `while` loop,
  its guard included; `run σ n` is `n` trips. The other threads of the client do not move
  here: they are the subject of the connection model.

  `receive` returns an unsigned number that the callers store in a signed one (`asInt32`). It
  returns 0 for every failure, so the callers' tests for a negative count never succeed.

  `Trip` says what one trip can do to a thread that is in its loop with the flags up, whatever
  the kernel answers, and `iterate_trip` that each trip is one of these. The lemmas about one
  receive (`iterate_quiet`, `iterate_drop`, `iterate_handle` and those of `handle_data`) are
  exact, for the modules that need to know which one it is.
-/
import Navtech.Network.Frame
import Navtech.Network.TcpSocket

namespace Navtech.Network

/-- `Connection_state`. -/
inductive ConnectionState where
  | disconnected | connecting | connected
deriving DecidableEq, Repr

/-- A `std::uint32_t` stored in a `std::int32_t`. -/
def asInt32 (v : Nat) : Int := (BitVec.ofNat 32 v).toInt

structure ReadThread where
  kernel : Kernel
  socketIsValid : Bool
  reading : Bool
  running : Bool
  connectionState : ConnectionState
  receiveDataQueue : List Bytes
  /-- The `while` loop has not been left. -/
  inLoop : Bool
deriving DecidableEq, Repr

namespace ReadThread

/-- `set_connection_state`. -/
def setConnectionState (st : ReadThread) (state : ConnectionState) : ReadThread :=
  if st.running then { st with connectionState := state } else st

/-- `receive_data_queue.enqueue`. -/
def enqueue (st : ReadThread) (item : Bytes) : ReadThread :=
  { st with receiveDataQueue := st.receiveDataQueue ++ [item] }

/-- `break`, and the statement after the loop. -/
def leave (st : ReadThread) : ReadThread := { st with reading := false, inLoop := false }

/-- `handle_data`: the result and the state. -/
def handleData (σ : Schedule) (st : ReadThread) : Bool × ReadThread :=
  let msg := Message.default
  let header := receive σ st.socketIsValid [] Message.headerSize .consume st.kernel
  let st := { st with kernel := header.kernel }
  if asInt32 header.returned ≤ 0 ∨ ¬ st.reading ∨ ¬ st.running then
    (false, st.setConnectionState .disconnected)
  else
    let msg := msg.replace header.data
    if msg.isValid ∧ msg.payloadSize ≠ 0 then
      let payload := receive σ st.socketIsValid [] msg.payloadSize .consume st.kernel
      let st := { st with kernel := payload.kernel }
      if asInt32 payload.returned ≤ 0 ∨ ¬ st.reading ∨ ¬ st.running then
        (false, st.setConnectionState .disconnected)
      else
        let msg := msg.append payload.data
        (true, st.enqueue msg.relinquish)
    else if msg.isValid then (true, st.enqueue msg.relinquish)
    else (true, st)

/-- One trip around the loop of `read_thread_handler`, from the guard on. -/
def iterate (σ : Schedule) (st : ReadThread) : ReadThread :=
  if ¬ (st.reading ∧ st.running) then st.leave
  else
    let signature := receive σ st.socketIsValid [] validSignature.length .peek st.kernel
    let st := { st with kernel := signature.kernel }
    let bytesRead := asInt32 signature.returned
    if bytesRead = 0 then st
    else if bytesRead < 0 ∨ ¬ st.reading ∨ ¬ st.running then
      (st.setConnectionState .disconnected).leave
    else if ¬ Signature.equals signature.data then
      let dropped := receive σ st.socketIsValid signature.data 1 .consume st.kernel
      let st := { st with kernel := dropped.kernel }
      if asInt32 dropped.returned ≤ 0 ∨ ¬ st.reading ∨ ¬ st.running then
        (st.setConnectionState .disconnected).leave
      else st
    else
      let (handled, st) := st.handleData σ
      if ¬ handled ∨ ¬ st.reading ∨ ¬ st.running then
        (st.setConnectionState .disconnected).leave
      else st

/-- A trip if the loop has not been left. -/
def step (σ : Schedule) (st : ReadThread) : ReadThread := if st.inLoop then st.iterate σ else st

/-- `n` trips. -/
def run (σ : Schedule) (st : ReadThread) : Nat → ReadThread
  | 0 => st
  | n + 1 => (run σ st n).step σ

/-- The thread as `connect()` starts it on a socket from which `stream` will be read. -/
def start (stream : Bytes) : ReadThread where
  kernel := ⟨stream, 0, 0, false⟩
  socketIsValid := true
  reading := true
  running := true
  connectionState := .connected
  receiveDataQueue := []
  inLoop := true

/-- What the peeking `receive` at the top of the loop returns from this state. -/
def peeked (σ : Schedule) (st : ReadThread) : Received :=
  receive σ st.socketIsValid [] validSignature.length .peek st.kernel

/-- In the loop, on a valid socket, with the flags up. -/
structure Live (st : ReadThread) : Prop where
  inLoop : st.inLoop = true
  socketIsValid : st.socketIsValid = true
  reading : st.reading = true
  running : st.running = true

/-- The thread after it has noticed a failure: the state is set to disconnected, the loop is
    left, and `reading` is lowered. -/
def failed (st : ReadThread) : ReadThread :=
  { st with connectionState := .disconnected, reading := false, inLoop := false }

/-- The `receive` that drops a byte where no signature starts. -/
def dropReceived (σ : Schedule) (st : ReadThread) : Received :=
  receive σ st.socketIsValid (st.peeked σ).data 1 .consume (st.peeked σ).kernel

/-- The `receive` of the header in `handle_data`. -/
def headerReceived (σ : Schedule) (st : ReadThread) : Received :=
  receive σ st.socketIsValid [] Message.headerSize .consume st.kernel

/-- The `receive` of an `n`-byte payload in `handle_data`. -/
def payloadReceived (σ : Schedule) (st : ReadThread) (n : Nat) : Received :=
  receive σ st.socketIsValid [] n .consume (st.headerReceived σ).kernel

/-- What `handle_data` can do with the flags up: fail; pass over a header that announces
    nothing acceptable; take a frame and hand it over. -/
inductive Handled (st : ReadThread) : Bool × ReadThread → Prop where
  | failed {taken : Bytes} {k : Kernel} : st.kernel.unread = taken ++ k.unread →
      Handled st (false, { st with kernel := k, connectionState := .disconnected })
  | passed {header : Bytes} {k : Kernel} : header.length = Message.headerSize →
      st.kernel.unread = header ++ k.unread → k.silent = false →
      Handled st (true, { st with kernel := k })
  | framed (f : Frame) {k : Kernel} : st.kernel.unread = f.bytes ++ k.unread →
      k.silent = false → Handled st (true, ({ st with kernel := k }).enqueue f.bytes)

/-- What a trip can do with the flags up: see an empty receive; take bytes and hand over
    nothing; take a frame and hand it over; leave the loop. -/
inductive Trip (σ : Schedule) (st : ReadThread) : ReadThread → Prop where
  | quiet : (st.peeked σ).returned = 0 → Trip σ st { st with kernel := (st.peeked σ).kernel }
  | skipped {taken : Bytes} {k : Kernel} : (st.peeked σ).returned ≠ 0 → taken ≠ [] →
      st.kernel.unread = taken ++ k.unread → k.silent = false →
      Trip σ st { st with kernel := k }
  | framed (f : Frame) {k : Kernel} : (st.peeked σ).returned ≠ 0 →
      st.kernel.unread = f.bytes ++ k.unread → k.silent = false →
      Trip σ st (({ st with kernel := k }).enqueue f.bytes)
  | left {taken : Bytes} {k : Kernel} : (st.peeked σ).returned ≠ 0 →
      st.kernel.unread = taken ++ k.unread → Trip σ st ({ st with kernel := k }).failed

theorem live_start (stream : Bytes) : (start stream).Live := ⟨rfl, rfl, rfl, rfl⟩

theorem Live.withKernel {st : ReadThread} (h : st.Live) (k : Kernel) :
    ({ st with kernel := k } : ReadThread).Live :=
  ⟨h.inLoop, h.socketIsValid, h.reading, h.running⟩

end ReadThread

/-! ## Signed counts -/

theorem asInt32_eq {v : Nat} (h : v < 2 ^ 31) : asInt32 v = v := by
  rw [asInt32, BitVec.toInt_ofNat', Int.bmod_eq_of_le] <;> omega

theorem asInt32_eq_zero {v : Nat} (h : v < 2 ^ 31) : asInt32 v = 0 ↔ v = 0 := by
  rw [asInt32_eq h]
  omega

/-- `receive` returns no count that is negative as a signed number, so that the callers' tests
    for one see failures as zeros only. -/
theorem asInt32_nonpos {v : Nat} (h : v < 2 ^ 31) : asInt32 v ≤ 0 ↔ v = 0 := by
  rw [asInt32_eq h]
  omega

theorem receive_consume_lt (σ : Schedule) (isValid : Bool) (data : Bytes) {want : Nat}
    (k : Kernel) (hw : want < 2 ^ 31) :
    (receive σ isValid data want .consume k).returned < 2 ^ 31 := by
  obtain ⟨-, -, -, ⟨h, -⟩ | h⟩ := receive_consume σ isValid data want k <;> omega

theorem receive_peek_lt (σ : Schedule) (isValid : Bool) (data : Bytes) {want : Nat}
    (k : Kernel) (hw : want < 2 ^ 31) :
    (receive σ isValid data want .peek k).returned < 2 ^ 31 := by
  obtain ⟨-, h | h⟩ := receive_peek σ isValid data want k <;> omega

theorem Signature.equals_iff {data : Bytes} (h : data.length = 16) :
    Signature.equals data = true ↔ data = validSignature := by
  unfold Signature.equals
  rw [h, beq_iff_eq]
  exact Iff.rfl

/-! ## `handle_data` -/

namespace ReadThread

variable {σ : Schedule} {st : ReadThread}

/-- The test after a `receive`, with the flags up. -/
theorem Live.test_iff (hl : st.Live) {returned : Nat} (hlt : returned < 2 ^ 31) :
    (asInt32 returned ≤ 0 ∨ ¬ st.reading = true ∨ ¬ st.running = true) ↔ returned = 0 := by
  rw [asInt32_nonpos hlt, hl.reading, hl.running]
  simp

theorem Live.setConnectionState (hl : st.Live) (state : ConnectionState) :
    st.setConnectionState state = { st with connectionState := state } := if_pos hl.running

theorem headerReceived_lt (σ : Schedule) (st : ReadThread) :
    (st.headerReceived σ).returned < 2 ^ 31 := receive_consume_lt _ _ _ _ (by decide)

theorem payloadReceived_lt (σ : Schedule) (st : ReadThread) {n : Nat} (hn : n < largestPayload) :
    (st.payloadReceived σ n).returned < 2 ^ 31 := by
  refine receive_consume_lt _ _ _ _ ?_
  unfold largestPayload at hn
  omega

/-- The header could not be read. -/
theorem handleData_failed (hl : st.Live) (h : (st.headerReceived σ).returned = 0) :
    st.handleData σ = (false, { st with
      kernel := (st.headerReceived σ).kernel, connectionState := .disconnected }) := by
  unfold handleData
  refine (if_pos (((hl.withKernel _).test_iff (headerReceived_lt σ st)).mpr h)).trans ?_
  rw [(hl.withKernel _).setConnectionState]
  rfl

/-- The header has been read and announces nothing acceptable. -/
theorem handleData_reject (hl : st.Live) (h : (st.headerReceived σ).returned ≠ 0)
    (hacc : ¬ Acceptable (st.headerReceived σ).data) :
    st.handleData σ = (true, { st with kernel := (st.headerReceived σ).kernel }) := by
  have hlen := receive_length h
  rw [List.length_nil, Nat.zero_add] at hlen
  have hvalid : ¬ (Message.default.replace (st.headerReceived σ).data).isValid = true :=
    fun hv => hacc ((isValid_iff _ hlen).mp hv)
  unfold handleData
  refine (if_neg (mt ((hl.withKernel _).test_iff (headerReceived_lt σ st)).mp h)).trans ?_
  exact (if_neg fun hv => hvalid hv.1).trans (if_neg hvalid)

theorem replace_headerBytes (t : MessageType) {n : Nat} (hn : n < largestPayload) :
    (Message.default.replace (headerBytes t n)).isValid = true ∧
      (Message.default.replace (headerBytes t n)).payloadSize = n := by
  have hn32 : n < 2 ^ 32 := by
    unfold largestPayload at hn
    omega
  refine ⟨(isValid_iff _ (length_headerBytes t n)).mpr ⟨t, n, hn, rfl⟩, ?_⟩
  have h := Message.payloadSize_headerBytes Message.default.hasProtobuf t n []
  rwa [List.append_nil, Nat.mod_eq_of_lt hn32] at h

/-- What is handed over for a header alone. -/
theorem relinquish_headerBytes (t : MessageType) :
    (Message.default.replace (headerBytes t 0)).relinquish = frameBytes t [] := by
  have hr := Message.relinquish_frameBytes Message.default.hasProtobuf t []
  rwa [frameBytes, List.append_nil] at hr

/-- What is handed over for a header and the payload that follows it. -/
theorem relinquish_append_headerBytes (t : MessageType) (n : Nat) (b : Bytes) :
    ((Message.default.replace (headerBytes t n)).append b).relinquish = frameBytes t b := by
  have ha := Message.appendBytes_headerBytes Message.default.hasProtobuf t n [] b
  rw [List.append_nil, List.nil_append] at ha
  rw [Message.append, Message.replace, ha, Message.relinquish_frameBytes]

/-- The header has been read and announces a frame without payload. -/
theorem handleData_no_payload {t : MessageType} (hl : st.Live)
    (h : (st.headerReceived σ).returned ≠ 0)
    (hdata : (st.headerReceived σ).data = headerBytes t 0) :
    st.handleData σ = (true, ({ st with
      kernel := (st.headerReceived σ).kernel }).enqueue (frameBytes t [])) := by
  obtain ⟨hvalid, hsize⟩ := replace_headerBytes t (n := 0) (by decide)
  unfold handleData
  refine (if_neg (mt ((hl.withKernel _).test_iff (headerReceived_lt σ st)).mp h)).trans ?_
  rw [← headerReceived, hdata]
  refine (if_neg fun hv => hv.2 hsize).trans ((if_pos hvalid).trans ?_)
  rw [relinquish_headerBytes]

/-- The header has been read and announces a payload. -/
theorem handleData_payload {t : MessageType} {n : Nat} (hl : st.Live)
    (h : (st.headerReceived σ).returned ≠ 0)
    (hdata : (st.headerReceived σ).data = headerBytes t n) (hpos : n ≠ 0)
    (hn : n < largestPayload) :
    st.handleData σ =
      if (st.payloadReceived σ n).returned = 0 then
        (false, { st with
          kernel := (st.payloadReceived σ n).kernel, connectionState := .disconnected })
      else
        (true, ({ st with kernel := (st.payloadReceived σ n).kernel }).enqueue
          (frameBytes t (st.payloadReceived σ n).data)) := by
  obtain ⟨hvalid, hsize⟩ := replace_headerBytes t hn
  have htest := (hl.withKernel (st.payloadReceived σ n).kernel).test_iff
    (payloadReceived_lt σ st hn)
  unfold handleData
  refine (if_neg (mt ((hl.withKernel _).test_iff (headerReceived_lt σ st)).mp h)).trans ?_
  rw [← headerReceived, hdata]
  refine (if_pos ⟨hvalid, fun hz => hpos (hsize ▸ hz)⟩).trans ?_
  dsimp only
  rw [hsize, ← payloadReceived, relinquish_append_headerBytes]
  by_cases hfail : (st.payloadReceived σ n).returned = 0
  · refine (if_pos (htest.mpr hfail)).trans ?_
    rw [if_pos hfail, (hl.withKernel _).setConnectionState]
  · exact (if_neg (mt htest.mp hfail)).trans (if_neg hfail).symm

/-- A consuming `receive` that returns something leaves the kernel not silent. -/
theorem not_silent {data : Bytes} {want : Nat} {opt : ReceiveOption} {k : Kernel}
    (hwant : 0 < want) (h : (receive σ true data want opt k).returned ≠ 0) :
    (receive σ true data want opt k).kernel.silent = false :=
  Bool.eq_false_iff.mpr (mt (receive_silent σ opt data k hwant).mp h)

/-- What a consuming `receive` of the thread got when it did not fail. -/
theorem received_of_ne_zero {isValid : Bool} {data : Bytes} {want : Nat} {k : Kernel}
    (h : (receive σ isValid data want .consume k).returned ≠ 0) :
    ∃ buf, k.unread = buf ++ (receive σ isValid data want .consume k).kernel.unread ∧
      buf.length = want ∧ (receive σ isValid data want .consume k).data = data ++ buf := by
  obtain ⟨buf, hsplit, -, ⟨-, hlen, hdata⟩ | h0⟩ := receive_consume σ isValid data want k
  · exact ⟨buf, hsplit, hlen, hdata⟩
  · exact absurd h0 h

theorem handleData_handled (hl : st.Live) : Handled st (st.handleData σ) := by
  by_cases h : (st.headerReceived σ).returned = 0
  · obtain ⟨taken, hsplit, -⟩ :=
      receive_consume σ st.socketIsValid [] Message.headerSize st.kernel
    rw [handleData_failed hl h]
    exact .failed hsplit
  · obtain ⟨header, hsplit, hlen, hdata⟩ := received_of_ne_zero h
    have hsilent : (st.headerReceived σ).kernel.silent = false := by
      unfold headerReceived at h ⊢
      rw [hl.socketIsValid] at h ⊢
      exact not_silent (by decide) h
    rw [List.nil_append] at hdata
    rw [← headerReceived] at hsplit hdata
    by_cases hacc : Acceptable header
    · obtain ⟨t, n, hn, rfl⟩ := hacc
      by_cases hzero : n = 0
      · subst hzero
        rw [handleData_no_payload hl h hdata]
        refine .framed ⟨t, [], by decide⟩ ?_ hsilent
        rw [Frame.bytes_eq, List.append_nil]
        exact hsplit
      · rw [handleData_payload hl h hdata hzero hn]
        by_cases hp : (st.payloadReceived σ n).returned = 0
        · obtain ⟨taken, hsplit', -⟩ :=
            receive_consume σ st.socketIsValid [] n (st.headerReceived σ).kernel
          rw [if_pos hp]
          rw [hsplit', ← List.append_assoc] at hsplit
          exact .failed hsplit
        · obtain ⟨payload, hsplit', rfl, hpdata⟩ := received_of_ne_zero hp
          rw [if_neg hp]
          rw [List.nil_append] at hpdata
          rw [← payloadReceived] at hsplit' hpdata
          rw [hsplit', ← List.append_assoc] at hsplit
          have hpsilent : (st.payloadReceived σ payload.length).kernel.silent = false := by
            unfold payloadReceived at hp ⊢
            rw [hl.socketIsValid] at hp ⊢
            exact not_silent (Nat.pos_of_ne_zero hzero) hp
          rw [hpdata]
          exact .framed ⟨t, payload, hn⟩ hsplit hpsilent
    · rw [handleData_reject hl h (by rw [hdata]; exact hacc)]
      exact .passed hlen hsplit hsilent

/-! ## One trip -/

theorem peeked_lt (σ : Schedule) (st : ReadThread) : (st.peeked σ).returned < 2 ^ 31 :=
  receive_peek_lt _ _ _ _ (by decide)

theorem peeked_unread (σ : Schedule) (st : ReadThread) :
    (st.peeked σ).kernel.unread = st.kernel.unread :=
  (receive_peek σ st.socketIsValid [] validSignature.length st.kernel).1

/-- The thread after its peek. -/
def afterPeek (σ : Schedule) (st : ReadThread) : ReadThread :=
  { st with kernel := (st.peeked σ).kernel }

/-- An empty receive at the peek: `continue`. -/
theorem iterate_quiet (hl : st.Live) (h : (st.peeked σ).returned = 0) :
    st.iterate σ = st.afterPeek σ := by
  unfold iterate
  refine (if_neg (not_not_intro ⟨hl.reading, hl.running⟩)).trans ?_
  exact if_pos ((asInt32_eq_zero (peeked_lt σ st)).mpr h)

/-- No signature at the peek: a byte is dropped. -/
theorem iterate_drop (hl : st.Live) (h : (st.peeked σ).returned ≠ 0)
    (hsig : (st.peeked σ).data ≠ validSignature) :
    st.iterate σ =
      if (st.dropReceived σ).returned = 0 then
        ({ st with kernel := (st.dropReceived σ).kernel }).failed
      else { st with kernel := (st.dropReceived σ).kernel } := by
  have hlen := receive_length h
  have heq : ¬ Signature.equals (st.peeked σ).data = true := mt (Signature.equals_iff hlen).mp hsig
  have hlt : (st.dropReceived σ).returned < 2 ^ 31 := receive_consume_lt _ _ _ _ (by decide)
  have htest := (hl.withKernel (st.dropReceived σ).kernel).test_iff hlt
  unfold iterate
  refine (if_neg (not_not_intro ⟨hl.reading, hl.running⟩)).trans ?_
  refine (if_neg (mt (asInt32_eq_zero (peeked_lt σ st)).mp h)).trans ?_
  refine (if_neg ?_).trans ((if_pos heq).trans ?_)
  · exact mt (Or.imp_left le_of_lt) (mt ((hl.withKernel _).test_iff (peeked_lt σ st)).mp h)
  · by_cases hfail : (st.dropReceived σ).returned = 0
    · refine (if_pos (htest.mpr hfail)).trans ?_
      rw [if_pos hfail, (hl.withKernel _).setConnectionState]
      rfl
    · exact (if_neg (mt htest.mp hfail)).trans (if_neg hfail).symm

/-- The signature at the peek: `handle_data`. -/
theorem iterate_handle (hl : st.Live) (h : (st.peeked σ).returned ≠ 0)
    (hsig : (st.peeked σ).data = validSignature) :
    st.iterate σ =
      if ((st.afterPeek σ).handleData σ).1 = true then ((st.afterPeek σ).handleData σ).2
      else (((st.afterPeek σ).handleData σ).2).failed := by
  have hlen := receive_length h
  have heq : ¬¬ Signature.equals (st.peeked σ).data = true :=
    not_not_intro ((Signature.equals_iff hlen).mpr hsig)
  have hl' : (st.afterPeek σ).Live := hl.withKernel _
  unfold iterate
  refine (if_neg (not_not_intro ⟨hl.reading, hl.running⟩)).trans ?_
  refine (if_neg (mt (asInt32_eq_zero (peeked_lt σ st)).mp h)).trans ?_
  refine (if_neg ?_).trans ((if_neg heq).trans ?_)
  · exact mt (Or.imp_left le_of_lt) (mt (hl'.test_iff (peeked_lt σ st)).mp h)
  · have hhandled := handleData_handled (σ := σ) hl'
    show (match (st.afterPeek σ).handleData σ with
      | (handled, st) =>
        if ¬ handled = true ∨ ¬ st.reading = true ∨ ¬ st.running = true then
          (st.setConnectionState .disconnected).leave
        else st) = _
    generalize (st.afterPeek σ).handleData σ = r at hhandled ⊢
    cases hhandled with
    | failed hsplit =>
      refine (if_pos (Or.inl Bool.false_ne_true)).trans ?_
      rw [if_neg Bool.false_ne_true]
      unfold ReadThread.setConnectionState
      exact congrArg leave (if_pos hl.running)
    | passed _ _ _ =>
      rw [if_pos rfl]
      exact if_neg (by simp [afterPeek, hl.reading, hl.running])
    | framed f _ _ =>
      rw [if_pos rfl]
      exact if_neg (by simp [afterPeek, enqueue, hl.reading, hl.running])

/-- Each trip of a thread with the flags up is one of `Trip`. -/
theorem iterate_trip (hl : st.Live) : Trip σ st (st.iterate σ) := by
  by_cases h : (st.peeked σ).returned = 0
  · rw [iterate_quiet hl h]
    exact .quiet h
  · by_cases hsig : (st.peeked σ).data = validSignature
    · rw [iterate_handle hl h hsig]
      have hhandled := handleData_handled (σ := σ) (hl.withKernel (st.peeked σ).kernel)
      rw [← afterPeek] at hhandled
      have hunread : (st.afterPeek σ).kernel.unread = st.kernel.unread := peeked_unread σ st
      generalize (st.afterPeek σ).handleData σ = r at hhandled ⊢
      cases hhandled with
      | failed hsplit => exact .left h (hunread ▸ hsplit)
      | passed hlen hsplit hsilent =>
        refine .skipped h ?_ (hunread ▸ hsplit) hsilent
        rintro rfl
        cases hlen
      | framed f hsplit hsilent => exact .framed f h (hunread ▸ hsplit) hsilent
    · rw [iterate_drop hl h hsig]
      by_cases hdrop : (st.dropReceived σ).returned = 0
      · obtain ⟨taken, hsplit, -⟩ :=
          receive_consume σ st.socketIsValid (st.peeked σ).data 1 (st.peeked σ).kernel
        rw [if_pos hdrop]
        rw [peeked_unread] at hsplit
        exact .left h hsplit
      · obtain ⟨taken, hsplit, hlen, -⟩ := received_of_ne_zero hdrop
        have hsilent : (st.dropReceived σ).kernel.silent = false := by
          unfold dropReceived at hdrop ⊢
          rw [hl.socketIsValid] at hdrop ⊢
          exact not_silent Nat.one_pos hdrop
        rw [if_neg hdrop]
        rw [peeked_unread] at hsplit
        refine .skipped h ?_ hsplit hsilent
        rintro rfl
        cases hlen

/-! ## Runs -/

theorem step_of_inLoop (h : st.inLoop = true) : st.step σ = st.iterate σ := if_pos h

theorem step_of_left (h : st.inLoop = false) : st.step σ = st := by
  unfold step
  rw [h]
  rfl

theorem run_add (σ : Schedule) (st : ReadThread) (m n : Nat) :
    run σ st (m + n) = run σ (run σ st m) n := by
  induction n with
  | zero => rfl
  | succ n ih =>
    rw [← Nat.add_assoc, run, run, ih]

/-- A thread that has left its loop stays as it is. -/
theorem run_of_left (h : st.inLoop = false) (n : Nat) : run σ st n = st := by
  induction n with
  | zero => rfl
  | succ n ih =>
    rw [run, ih, step_of_left h]

/-- As long as it is in its loop, the thread has the flags up and the state is connected. -/
def Inv (st : ReadThread) : Prop :=
  st.inLoop = true → st.Live ∧ st.connectionState = .connected

theorem inv_start (stream : Bytes) : (start stream).Inv := fun _ => ⟨live_start stream, rfl⟩

/-- What holds before a step, and after every trip that the step may be, holds after it. -/
theorem step_rule {P : ReadThread → Prop} (hinv : st.Inv) (h : P st)
    (htrip : ∀ {st'}, st.Live → st.connectionState = .connected → Trip σ st st' → P st') :
    P (st.step σ) := by
  cases hin : st.inLoop with
  | false => rwa [step_of_left hin]
  | true =>
    obtain ⟨hl, hc⟩ := hinv hin
    rw [step_of_inLoop hin]
    exact htrip hl hc (iterate_trip hl)

theorem step_inv (h : st.Inv) : (st.step σ).Inv := by
  refine step_rule h h fun hl hc htrip => ?_
  cases htrip with
  | quiet _ => exact fun _ => ⟨hl.withKernel _, hc⟩
  | skipped _ _ _ _ => exact fun _ => ⟨hl.withKernel _, hc⟩
  | framed f _ _ _ => exact fun _ => ⟨⟨hl.inLoop, hl.socketIsValid, hl.reading, hl.running⟩, hc⟩
  | left _ _ => exact fun h => absurd h Bool.false_ne_true

theorem run_inv (h : st.Inv) (n : Nat) : (run σ st n).Inv := by
  induction n with
  | zero => exact h
  | succ n ih => exact step_inv ih

end ReadThread

end Navtech.Network
