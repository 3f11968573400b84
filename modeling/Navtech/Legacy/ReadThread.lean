/-
  The read thread of the first SDK, `ReadThread` and `HandleData` of `cpp/tcpradarclient.cpp`,
  and the read thread of the second, trip by trip.

  `TcpSocket::Receive` of the first SDK has the same body as `Tcp_socket::receive`, so both
  threads run against the same kernel. `bytes` is the thread as the second SDK would have it:
  with the bytes of the messages in its queue. A trip of the first thread is a trip of the second
  on the same bytes (`iterate_bytes`), unless it takes a header that only the first accepts
  (`ReadsDisputed`). So both hand over the same frames for as long as no such header is read.
-/
import Navtech.Legacy.NetworkDataMessage
import Navtech.Network.ReadThread

namespace Navtech.Legacy

open Navtech.Utility
open Navtech.Network (Bytes Kernel Schedule Received ConnectionState Message receive receive_length
  asInt32 headerBytes frameBytes)

structure ReadThread where
  kernel : Kernel
  socketIsValid : Bool
  reading : Bool
  running : Bool
  connectionState : ConnectionState
  receiveDataQueue : List NetworkDataMessage
  /-- The `while` loop has not been left. -/
  inLoop : Bool
deriving DecidableEq, Repr

namespace ReadThread

/-- `SetConnectionState`. -/
def setConnectionState (st : ReadThread) (state : ConnectionState) : ReadThread :=
  if st.running then { st with connectionState := state } else st

/-- `_receiveDataQueue->Enqueue`. -/
def enqueue (st : ReadThread) (item : NetworkDataMessage) : ReadThread :=
  { st with receiveDataQueue := st.receiveDataQueue ++ [item] }

/-- `break`, and the statement after the loop. -/
def leave (st : ReadThread) : ReadThread := { st with reading := false, inLoop := false }

/-- `HandleData`: the result and the state. -/
def handleData (σ : Schedule) (st : ReadThread) : Bool × ReadThread :=
  let data := receive σ st.socketIsValid [] ndmHeaderLength .consume st.kernel
  let st := { st with kernel := data.kernel }
  if asInt32 data.returned ≤ 0 ∨ ¬ st.reading ∨ ¬ st.running then
    (false, st.setConnectionState .disconnected)
  else
    let messageHeader := NetworkDataHeader.ofMemory data.data
    let length := messageHeader.payloadLength.toNat
    if messageHeader.headerIsValid ∧ length ≠ 0 then
      let payloadData := receive σ st.socketIsValid [] length .consume st.kernel
      let st := { st with kernel := payloadData.kernel }
      if asInt32 payloadData.returned ≤ 0 ∨ ¬ st.reading ∨ ¬ st.running then
        (false, st.setConnectionState .disconnected)
      else (true, st.enqueue ⟨messageHeader, payloadData.data.take length⟩)
    else if messageHeader.headerIsValid then (true, st.enqueue ⟨messageHeader, []⟩)
    else (true, st)

/-- One trip around the loop of `ReadThread`, from the guard on. -/
def iterate (σ : Schedule) (st : ReadThread) : ReadThread :=
  if ¬ (st.reading ∧ st.running) then st.leave
  else
    let signature := receive σ st.socketIsValid [] ndmSignatureLength .peek st.kernel
    let st := { st with kernel := signature.kernel }
    let bytesRead := asInt32 signature.returned
    if bytesRead = 0 then st
    else if bytesRead < 0 ∨ ¬ st.reading ∨ ¬ st.running then
      (st.setConnectionState .disconnected).leave
    else if ¬ signature.data.take ndmSignatureLength = ndmSignatureBytes then
      let dropped := receive σ st.socketIsValid signature.data 1 .consume st.kernel
      let st := { st with kernel := dropped.kernel }
      if asInt32 dropped.returned ≤ 0 ∨ ¬ st.reading ∨ ¬ st.running then
        (st.setConnectionState .disconnected).leave
      else st
    else
      let (handled, st) := st.handleData σ
      if ¬ handled ∨ ¬ st.reading ∨ ¬ st.running then
        (st.setConnectionState .disconnected).leave
      else st

/-- A trip if the loop has not been left. -/
def step (σ : Schedule) (st : ReadThread) : ReadThread := if st.inLoop then st.iterate σ else st

/-- `n` trips. -/
def run (σ : Schedule) (st : ReadThread) : Nat → ReadThread
  | 0 => st
  | n + 1 => (run σ st n).step σ

/-- The thread as `Connect()` starts it on a socket from which `stream` will be read. -/
def start (stream : Bytes) : ReadThread where
  kernel := ⟨stream, 0, 0, false⟩
  socketIsValid := true
  reading := true
  running := true
  connectionState := .connected
  receiveDataQueue := []
  inLoop := true

/-- The thread with the bytes of its messages. -/
def bytes (st : ReadThread) : Network.ReadThread where
  kernel := st.kernel
  socketIsValid := st.socketIsValid
  reading := st.reading
  running := st.running
  connectionState := st.connectionState
  receiveDataQueue := st.receiveDataQueue.map NetworkDataMessage.messageData
  inLoop := st.inLoop

/-- A header that the first SDK accepts and the second does not. -/
def Disputed (data : Bytes) : Prop :=
  (NetworkDataHeader.ofMemory data).headerIsValid = true ∧
    Network.largestPayload ≤ (NetworkDataHeader.ofMemory data).payloadLength.toNat

instance (data : Bytes) : Decidable (Disputed data) := inferInstanceAs (Decidable (_ ∧ _))

/-- What the peek of the next trip returns. -/
def peeked (σ : Schedule) (st : ReadThread) : Received :=
  receive σ st.socketIsValid [] ndmSignatureLength .peek st.kernel

/-- The byte that the next trip drops where no signature starts. -/
def dropReceived (σ : Schedule) (st : ReadThread) : Received :=
  receive σ st.socketIsValid (st.peeked σ).data 1 .consume (st.peeked σ).kernel

/-- The header that `HandleData` takes from this state. -/
def headerReceived (σ : Schedule) (st : ReadThread) : Received :=
  receive σ st.socketIsValid [] ndmHeaderLength .consume st.kernel

/-- The payload of `n` bytes that `HandleData` takes from this state. -/
def payloadReceived (σ : Schedule) (st : ReadThread) (n : Nat) : Received :=
  receive σ st.socketIsValid [] n .consume (st.headerReceived σ).kernel

/-- The thread with this kernel. -/
def withKernel (st : ReadThread) (k : Kernel) : ReadThread := { st with kernel := k }

/-- The test after a `Receive`. -/
def Failed (st : ReadThread) (returned : Nat) : Prop :=
  asInt32 returned ≤ 0 ∨ ¬ st.reading = true ∨ ¬ st.running = true

instance (st : ReadThread) (returned : Nat) : Decidable (st.Failed returned) :=
  inferInstanceAs (Decidable (_ ∨ _))

/-- The next trip sees the signature, and takes a disputed header. -/
def ReadsDisputed (σ : Schedule) (st : ReadThread) : Prop :=
  (st.peeked σ).data.take ndmSignatureLength = ndmSignatureBytes ∧
    Disputed ((st.withKernel (st.peeked σ).kernel).headerReceived σ).data

instance (σ : Schedule) (st : ReadThread) : Decidable (st.ReadsDisputed σ) :=
  inferInstanceAs (Decidable (_ ∧ _))

variable {σ : Schedule} {st : ReadThread}

@[simp] theorem bytes_setConnectionState (st : ReadThread) (state : ConnectionState) :
    (st.setConnectionState state).bytes = st.bytes.setConnectionState state := by
  unfold setConnectionState Network.ReadThread.setConnectionState
  show _ = if st.running = true then _ else _
  split <;> rfl

@[simp] theorem bytes_enqueue (st : ReadThread) (item : NetworkDataMessage) :
    (st.enqueue item).bytes = st.bytes.enqueue item.messageData := by
  simp [enqueue, bytes, Network.ReadThread.enqueue]

@[simp] theorem bytes_leave (st : ReadThread) : st.leave.bytes = st.bytes.leave := rfl

/-! ## One trip -/

/-- A header that both accept. -/
theorem ofMemory_accepted {data : Bytes} (hlen : data.length = ndmHeaderLength)
    (hvalid : (NetworkDataHeader.ofMemory data).headerIsValid = true) (h : ¬ Disputed data) :
    ∃ t n, n < Network.largestPayload ∧ data = headerBytes t n ∧
      (NetworkDataHeader.ofMemory data).payloadLength.toNat = n ∧
      ∀ payload : Bytes, payload.length = n →
        NetworkDataMessage.messageData ⟨NetworkDataHeader.ofMemory data, payload⟩ =
          frameBytes t payload := by
  have hne : data ≠ [] := by
    rintro rfl
    cases hlen
  have hlt := Nat.lt_of_not_le (not_and.mp h hvalid)
  obtain ⟨t, n, hn, rfl⟩ := (Network.isValid_iff false hlen).mp
    ((isValid_iff_headerIsValid false hne).mpr ⟨hvalid, hlt⟩)
  have hn32 : n < 2 ^ 32 := lt_trans hn (by decide)
  have hword : (UInt32.ofNat n).toNat = n := UInt32.toNat_ofNat_of_lt hn32
  have hof := ofMemory_headerBytes t hn32 []
  rw [List.append_nil] at hof
  refine ⟨t, n, hn, rfl, ?_, fun payload hpayload => ?_⟩
  · rw [hof]
    show (ntohl (htonl (UInt32.ofNat n))).toNat = n
    rw [ntohl_htonl, hword]
  · rw [hof, messageData_eq, toData_init, hword, ← hpayload]
    rfl

/-- `HandleData` and `handle_data` do the same, unless the header is disputed. -/
theorem handleData_bytes (hdisputed : ¬ Disputed (st.headerReceived σ).data) :
    st.bytes.handleData σ = ((st.handleData σ).1, (st.handleData σ).2.bytes) := by
  by_cases h : st.Failed (st.headerReceived σ).returned
  · have hlegacy : st.handleData σ =
        (false, (st.withKernel (st.headerReceived σ).kernel).setConnectionState .disconnected) :=
      if_pos h
    rw [hlegacy, bytes_setConnectionState]
    exact if_pos h
  have hret : (st.headerReceived σ).returned ≠ 0 := by
    intro hzero
    rw [hzero] at h
    exact h (Or.inl (by decide))
  have hlen : (st.headerReceived σ).data.length = ndmHeaderLength := by
    simpa [headerReceived] using receive_length hret
  have hne : (st.headerReceived σ).data ≠ [] := by
    intro hnil
    rw [hnil] at hlen
    cases hlen
  by_cases hvalid : (NetworkDataHeader.ofMemory (st.headerReceived σ).data).headerIsValid = true
  · obtain ⟨t, n, hn, hdata, hlength, hmessage⟩ := ofMemory_accepted hlen hvalid hdisputed
    obtain ⟨hmsg, hsize⟩ := Network.ReadThread.replace_headerBytes t hn
    rw [← hdata] at hmsg hsize
    by_cases hzero : n = 0
    · have hlegacy : st.handleData σ = (true, (st.withKernel (st.headerReceived σ).kernel).enqueue
          ⟨NetworkDataHeader.ofMemory (st.headerReceived σ).data, []⟩) :=
        (if_neg h).trans ((if_neg fun hh => hh.2 (hlength.trans hzero)).trans (if_pos hvalid))
      have hrel := Network.ReadThread.relinquish_headerBytes t
      subst hzero
      rw [hlegacy, bytes_enqueue, hmessage [] rfl, ← hrel, ← hdata]
      exact (if_neg h).trans ((if_neg fun hh => hh.2 hsize).trans (if_pos hmsg))
    · by_cases hp : st.Failed (st.payloadReceived σ n).returned
      · have hlegacy : st.handleData σ = (false,
            (st.withKernel (st.payloadReceived σ n).kernel).setConnectionState .disconnected) := by
          refine (if_neg h).trans ((if_pos ⟨hvalid, hlength.trans_ne hzero⟩).trans ?_)
          dsimp only
          rw [← headerReceived, hlength]
          exact if_pos hp
        rw [hlegacy, bytes_setConnectionState]
        refine (if_neg h).trans ((if_pos ⟨hmsg, hsize.trans_ne hzero⟩).trans ?_)
        dsimp only
        rw [show (receive σ st.bytes.socketIsValid [] Message.headerSize .consume
          st.bytes.kernel).data = (st.headerReceived σ).data from rfl, hsize]
        exact if_pos hp
      · have hpayload : (st.payloadReceived σ n).data.length = n := by
          have hret' : (st.payloadReceived σ n).returned ≠ 0 := by
            intro hz
            rw [hz] at hp
            exact hp (Or.inl (by decide))
          simpa [payloadReceived] using receive_length hret'
        have hlegacy : st.handleData σ = (true,
            (st.withKernel (st.payloadReceived σ n).kernel).enqueue
              ⟨NetworkDataHeader.ofMemory (st.headerReceived σ).data,
                (st.payloadReceived σ n).data.take n⟩) := by
          refine (if_neg h).trans ((if_pos ⟨hvalid, hlength.trans_ne hzero⟩).trans ?_)
          dsimp only
          rw [← headerReceived, hlength]
          exact if_neg hp
        have hrel := Network.ReadThread.relinquish_append_headerBytes t n
          (st.payloadReceived σ n).data
        rw [hlegacy, bytes_enqueue, List.take_of_length_le hpayload.le, hmessage _ hpayload, ← hrel,
          ← hdata]
        refine (if_neg h).trans ((if_pos ⟨hmsg, hsize.trans_ne hzero⟩).trans ?_)
        dsimp only
        rw [show (receive σ st.bytes.socketIsValid [] Message.headerSize .consume
          st.bytes.kernel).data = (st.headerReceived σ).data from rfl, hsize]
        exact if_neg hp
  · have hlegacy : st.handleData σ = (true, st.withKernel (st.headerReceived σ).kernel) :=
      (if_neg h).trans ((if_neg fun hh => hvalid hh.1).trans (if_neg hvalid))
    have hmsg : ¬ (Message.default.replace (st.headerReceived σ).data).isValid = true :=
      fun hh => hvalid ((isValid_iff_headerIsValid _ hne).mp hh).1
    rw [hlegacy]
    exact (if_neg h).trans ((if_neg fun hh => hmsg hh.1).trans (if_neg hmsg))

/-- A trip of one thread is a trip of the other, unless it takes a disputed header. -/
theorem iterate_bytes (hdisputed : ¬ st.ReadsDisputed σ) :
    st.bytes.iterate σ = (st.iterate σ).bytes := by
  have hpeek : st.bytes.peeked σ = st.peeked σ := rfl
  by_cases hflags : ¬ (st.reading = true ∧ st.running = true)
  · have hlegacy : st.iterate σ = st.leave := if_pos hflags
    rw [hlegacy]
    exact if_pos hflags
  by_cases hzero : asInt32 (st.peeked σ).returned = 0
  · have hlegacy : st.iterate σ = st.withKernel (st.peeked σ).kernel :=
      (if_neg hflags).trans (if_pos hzero)
    rw [hlegacy]
    exact (if_neg hflags).trans (if_pos hzero)
  by_cases hneg : asInt32 (st.peeked σ).returned < 0 ∨ ¬ st.reading = true ∨ ¬ st.running = true
  · have hlegacy : st.iterate σ =
        ((st.withKernel (st.peeked σ).kernel).setConnectionState .disconnected).leave :=
      (if_neg hflags).trans ((if_neg hzero).trans (if_pos hneg))
    rw [hlegacy, bytes_leave, bytes_setConnectionState]
    exact (if_neg hflags).trans ((if_neg hzero).trans (if_pos hneg))
  have hlen : (st.peeked σ).data.length = ndmSignatureLength := by
    have hret : (st.peeked σ).returned ≠ 0 := by
      intro hz
      rw [hz] at hzero
      exact hzero (by decide)
    simpa [peeked] using receive_length hret
  have htake : (st.peeked σ).data.take ndmSignatureLength = (st.peeked σ).data :=
    List.take_of_length_le hlen.le
  have hequals := Network.Signature.equals_iff hlen
  by_cases hsig : (st.peeked σ).data.take ndmSignatureLength = ndmSignatureBytes
  · -- the signature: the header and what follows it
    have hundisputed : ¬ Disputed
        ((st.withKernel (st.peeked σ).kernel).headerReceived σ).data :=
      fun hd => hdisputed ⟨hsig, hd⟩
    have hhandle := handleData_bytes hundisputed
    have hlegacy : st.iterate σ =
        if ¬ ((st.withKernel (st.peeked σ).kernel).handleData σ).1 = true ∨
            ¬ ((st.withKernel (st.peeked σ).kernel).handleData σ).2.reading = true ∨
            ¬ ((st.withKernel (st.peeked σ).kernel).handleData σ).2.running = true then
          (((st.withKernel (st.peeked σ).kernel).handleData σ).2.setConnectionState
            .disconnected).leave
        else ((st.withKernel (st.peeked σ).kernel).handleData σ).2 :=
      (if_neg hflags).trans ((if_neg hzero).trans ((if_neg hneg).trans
        (if_neg (not_not_intro hsig))))
    have hword : Network.Signature.equals (st.peeked σ).data = true :=
      hequals.mpr (htake.symm.trans hsig)
    have hnetwork : st.bytes.iterate σ =
        if ¬ ((st.withKernel (st.peeked σ).kernel).bytes.handleData σ).1 = true ∨
            ¬ ((st.withKernel (st.peeked σ).kernel).bytes.handleData σ).2.reading = true ∨
            ¬ ((st.withKernel (st.peeked σ).kernel).bytes.handleData σ).2.running = true then
          (((st.withKernel (st.peeked σ).kernel).bytes.handleData σ).2.setConnectionState
            .disconnected).leave
        else ((st.withKernel (st.peeked σ).kernel).bytes.handleData σ).2 :=
      (if_neg hflags).trans ((if_neg hzero).trans ((if_neg hneg).trans
        (if_neg (not_not_intro hword))))
    rw [hnetwork, hlegacy, hhandle, apply_ite bytes, bytes_leave, bytes_setConnectionState]
    rfl
  · -- no signature: one byte is dropped
    have hword : ¬ Network.Signature.equals (st.peeked σ).data = true :=
      fun hh => hsig (htake.trans (hequals.mp hh))
    have hlegacy : st.iterate σ = if st.Failed (st.dropReceived σ).returned then
        ((st.withKernel (st.dropReceived σ).kernel).setConnectionState .disconnected).leave
        else st.withKernel (st.dropReceived σ).kernel :=
      (if_neg hflags).trans ((if_neg hzero).trans ((if_neg hneg).trans (if_pos hsig)))
    rw [hlegacy, apply_ite bytes, bytes_leave, bytes_setConnectionState]
    exact (if_neg hflags).trans ((if_neg hzero).trans ((if_neg hneg).trans (if_pos hword)))

/-- As many trips of both threads, none of which takes a disputed header. -/
theorem run_bytes (st : ReadThread) (n : Nat) (h : ∀ m < n, ¬ (run σ st m).ReadsDisputed σ) :
    Network.ReadThread.run σ st.bytes n = (run σ st n).bytes := by
  induction n with
  | zero => rfl
  | succ n ih =>
    rw [Network.ReadThread.run, ih fun m hm => h m (Nat.lt_succ_of_lt hm), run]
    show ite _ _ _ = (ite _ _ _ : ReadThread).bytes
    have hin : (run σ st n).bytes.inLoop = (run σ st n).inLoop := rfl
    rw [hin]
    split
    · exact iterate_bytes (h n (Nat.lt_succ_self n))
    · rfl

/-- **The same frames, but for the limit.** A header is accepted by the second SDK exactly if
    the first one accepts it and it announces less than 1,000,000 bytes; the first one's limit is
    1,048,576. On every stream, however it is read, both receivers have handed over the same
    frames for as long as no header between the limits has been taken. -/
theorem accepts_same :
    (∀ (p : Bool) (data : Bytes), data.length = 22 →
      ((⟨p, data⟩ : Message).isValid = true ↔
        (NetworkDataHeader.ofMemory data).headerIsValid = true ∧
          (NetworkDataHeader.ofMemory data).payloadLength.toNat < 1000000)) ∧
    ∀ (σ : Schedule) (stream : Bytes) (n : Nat),
      (∀ m < n, ¬ (run σ (start stream) m).ReadsDisputed σ) →
      (Network.ReadThread.run σ (.start stream) n).receiveDataQueue =
        (run σ (start stream) n).receiveDataQueue.map NetworkDataMessage.messageData := by
  constructor
  · intro p data hlen
    refine isValid_iff_headerIsValid p ?_
    rintro rfl
    cases hlen
  · intro σ stream n h
    exact congrArg Network.ReadThread.receiveDataQueue (run_bytes (start stream) n h)

/-- A frame of four bytes. -/
theorem accepts_same_four :
    ((⟨false, headerBytes 30 4⟩ : Message).isValid = true ↔
      (NetworkDataHeader.ofMemory (headerBytes 30 4)).headerIsValid = true ∧
        (NetworkDataHeader.ofMemory (headerBytes 30 4)).payloadLength.toNat < 1000000) ∧
    (Network.ReadThread.run Schedule.whole (.start (frameBytes 30 [1, 2, 3, 4])) 1).receiveDataQueue =
      (run Schedule.whole (start (frameBytes 30 [1, 2, 3, 4])) 1).receiveDataQueue.map
        NetworkDataMessage.messageData :=
  ⟨accepts_same.1 false (headerBytes 30 4) rfl, accepts_same.2 Schedule.whole _ 1 (by decide)⟩

/-- A header that announces 1,000,000 bytes. -/
theorem limits_differ :
    ¬ ∀ (p : Bool) (data : Bytes), data.length = 22 →
      ((⟨p, data⟩ : Message).isValid = true ↔
        (NetworkDataHeader.ofMemory data).headerIsValid = true) := by
  intro h
  have hfirst : (NetworkDataHeader.ofMemory (headerBytes 30 1000000)).headerIsValid = true := by
    decide
  have hsecond : ¬ (⟨false, headerBytes 30 1000000⟩ : Message).isValid = true := by decide
  exact hsecond ((h false (headerBytes 30 1000000) rfl).mpr hfirst)

end ReadThread

end Navtech.Legacy
