/-
  Does a call of `ExtractFromStream` come to its end when the stream does?

  A call is taken apart into its turns here, one `Read` each (`Call.step`). It ends if some
  number of turns brings it to a result (`Ends`). Where the stream has what the call asks for,
  it ends with what `extractFromStream` says; where it has less, a `Read` that gives nothing
  adds nothing to the count, and the call goes on for ever (`Call.ends_iff`).

  The thread makes call after call, and each that returns takes a header at least. So it is in
  a call that never ends as soon as the stream is used up, at whatever place, unless a
  constructor or a subscriber of `OnData` has thrown before: then `ReadData` leaves its loop
  (`everyCallEnds_iff`).
-/
import Navtech.IASDK.TcpClientConnection

namespace Navtech.IASDK

open ByteOrder Buffer ManagedArray TcpNetworkDataMessage
open Navtech.Network (Bytes Kernel Schedule Splitting recv recv_consume recv_length)

/-- The two loops of a call. -/
inductive Stage where
  | header
  | payload (message : TcpNetworkDataMessage)
deriving DecidableEq, Repr

/-- How many bytes the loop is to read. -/
def Stage.count : Stage → Nat
  | .header => headerLength
  | .payload message => message.payloadSize.toInt.toNat

/-- `headerBytesRead != HeaderLength` and `bytesRead < message.PayloadSize`. -/
def Stage.goesOn : Stage → Nat → Bool
  | .header, bytesRead => bytesRead != headerLength
  | .payload message, bytesRead => decide ((bytesRead : Int) < message.payloadSize.toInt)

/-- Where a call is: in a loop, with the bytes it has read so far, or at its end. -/
inductive Call where
  | reading (stage : Stage) (bytesRead : Nat) (buffer : Bytes)
  | done (result : Except Exception (Option TcpNetworkDataMessage))
deriving Repr

namespace Call

def start : Call := .reading .header 0 (List.replicate headerLength 0)

/-- What comes of the constructor: the exception, `null`, or the loop of the payload. -/
def afterHeader : Except Exception TcpNetworkDataMessage → Call
  | .error e => .done (.error e)
  | .ok message =>
    if message.valid then .reading (.payload message) 0 message.body else .done (.ok none)

/-- Behind a loop that has filled its buffer. -/
def next (ρ : Runtime) (buffer : Bytes) : Stage → Call
  | .header => afterHeader (ofBytes ρ buffer)
  | .payload message => .done (.ok (some { message with payload := some buffer }))

/-- A turn of a loop, with one call of `Read`, or the step out of it. -/
def step (ρ : Runtime) (σ : Schedule) : Call × Kernel → Call × Kernel
  | (.reading stage bytesRead buffer, k) =>
    if stage.goesOn bytesRead then
      let (chunk, k') := recv σ .consume (stage.count - bytesRead) k
      (.reading stage (bytesRead + chunk.length) (copyTo buffer bytesRead chunk), k')
    else (next ρ buffer stage, k)
  | (.done result, k) => (.done result, k)

/-- `n` turns. -/
def run (ρ : Runtime) (σ : Schedule) (n : Nat) (c : Call × Kernel) : Call × Kernel :=
  (step ρ σ)^[n] c

/-- The call comes to a result after finitely many turns. -/
def Ends (ρ : Runtime) (σ : Schedule) (k : Kernel) : Prop :=
  ∃ n result, (run ρ σ n (start, k)).1 = .done result

variable {ρ : Runtime} {σ : Schedule} {stage : Stage} {k : Kernel}

theorem goesOn_iff {bytesRead : Nat} (h : bytesRead ≤ stage.count) :
    stage.goesOn bytesRead = true ↔ bytesRead < stage.count := by
  cases stage with
  | header =>
    rw [Stage.goesOn, bne_iff_ne, Stage.count] at *
    omega
  | payload message =>
    rw [Stage.goesOn, decide_eq_true_eq, Stage.count]
    omega

theorem run_add (m n : Nat) (c : Call × Kernel) :
    run ρ σ (m + n) c = run ρ σ n (run ρ σ m c) := by
  rw [run, Nat.add_comm, Function.iterate_add_apply]
  rfl

theorem run_succ (n : Nat) (c : Call × Kernel) :
    run ρ σ (n + 1) c = run ρ σ n (step ρ σ c) :=
  Function.iterate_succ_apply _ _ _

/-- A loop that `readLoop` leaves is left. -/
theorem run_readLoop : ∀ {turns bytesRead : Nat} {buffer out : Bytes} {k k' : Kernel},
    bytesRead ≤ stage.count →
      readLoop σ stage.count turns bytesRead buffer k = some (out, k') →
      ∃ n, run ρ σ n (.reading stage bytesRead buffer, k) = (next ρ out stage, k')
  | 0, _, _, _, _, _, _, h => nomatch h
  | turns + 1, bytesRead, buffer, out, k, k', hle, h => by
      have hlen := recv_length σ .consume (stage.count - bytesRead) k
      rw [readLoop] at h
      split at h
      · rename_i hmore
        dsimp only at h
        split at h
        · cases h
        · obtain ⟨n, hn⟩ := run_readLoop (by omega) h
          refine ⟨n + 1, ?_⟩
          rw [run_succ, step, if_pos ((goesOn_iff hle).mpr hmore)]
          exact hn
      · rename_i hdone
        obtain ⟨rfl, rfl⟩ := Prod.mk.inj (Option.some.inj h)
        refine ⟨1, ?_⟩
        rw [run_succ, step, if_neg (mt (goesOn_iff hle).mp hdone)]
        rfl

/-- A loop that asks for more than there is goes on for ever. -/
theorem run_short (ρ : Runtime) (σ : Schedule) (n : Nat) :
    ∀ (bytesRead : Nat) (buffer : Bytes) (k : Kernel), bytesRead + k.unread.length < stage.count →
      ∃ bytesRead' buffer' k', run ρ σ n (.reading stage bytesRead buffer, k) =
        (.reading stage bytesRead' buffer', k') := by
  induction n with
  | zero => exact fun _ _ _ _ => ⟨_, _, _, rfl⟩
  | succ n ih =>
    intro bytesRead buffer k hshort
    have hlen := congrArg List.length (recv_consume σ (stage.count - bytesRead) k).1
    rw [List.length_append] at hlen
    have hnext := ih (bytesRead + (recv σ .consume (stage.count - bytesRead) k).1.length)
      (copyTo buffer bytesRead (recv σ .consume (stage.count - bytesRead) k).1)
      (recv σ .consume (stage.count - bytesRead) k).2 (by omega)
    rw [run_succ, step, if_pos ((goesOn_iff (by omega)).mpr (by omega))]
    exact hnext

/-- A loop whose bytes are all there fills its buffer with them and is left. -/
theorem run_full (ρ : Runtime) (stage : Stage) (σ : Splitting) {buffer : Bytes}
    (hbuffer : buffer.length = stage.count)
    (hfull : stage.count ≤ k.unread.length) :
    ∃ k', readLoop σ.schedule stage.count (stage.count + 1) 0 buffer k =
        some (k.unread.take stage.count, k') ∧ k'.unread = k.unread.drop stage.count ∧
      ∃ n, run ρ σ.schedule n (.reading stage 0 buffer, k) =
        (next ρ (k.unread.take stage.count) stage, k') := by
  have htake : (k.unread.take stage.count).length = stage.count := List.length_take_of_le hfull
  obtain ⟨k', hloop, hrest⟩ := readLoop_append σ stage.count (stage.count + 1) [] buffer
    (k.unread.take stage.count) (k.unread.drop stage.count) k (by omega) (by omega)
    (by rw [htake, List.length_nil, Nat.zero_add]) (List.take_append_drop _ _).symm
  exact ⟨k', hloop, hrest, run_readLoop (Nat.zero_le _) hloop⟩

/-- What is done stays done. -/
theorem run_done (ρ : Runtime) (σ : Schedule) {c : Call × Kernel}
    {result : Except Exception (Option TcpNetworkDataMessage)}
    (h : c.1 = .done result) (n : Nat) : (run ρ σ n c).1 = .done result := by
  obtain ⟨_, k⟩ := c
  subst h
  induction n with
  | zero => rfl
  | succ n ih => rw [run_succ, step, ih]

/-- The header is there, and where it is one of a message, so is the payload that it announces;
    unless the constructor throws. -/
def Complete (ρ : Runtime) (bytes : Bytes) : Prop :=
  headerLength ≤ bytes.length ∧
    ∀ m, ofBytes ρ (bytes.take headerLength) = .ok m → m.valid = true →
      headerLength + m.payloadSize.toInt.toNat ≤ bytes.length

/-- A call that comes to a loop which asks for more than there is does not end. -/
theorem not_ends_of_short (m : Nat) {bytesRead : Nat} {buffer : Bytes} {k' : Kernel}
    (hrun : run ρ σ m (start, k) = (.reading stage bytesRead buffer, k'))
    (hshort : bytesRead + k'.unread.length < stage.count) : ¬ Ends ρ σ k := by
  rintro ⟨n, result, hdone⟩
  obtain ⟨_, _, _, hlater⟩ := run_short ρ σ n bytesRead buffer k' hshort
  have hstays := run_done ρ σ hdone m
  rw [← run_add, Nat.add_comm, run_add, hrun, hlater] at hstays
  exact Call.noConfusion hstays

section Header

variable {headerData : Bytes} {message : TcpNetworkDataMessage} {k₁ : Kernel}

theorem next_error {e : Exception} (h : ofBytes ρ headerData = .error e) :
    next ρ headerData .header = .done (.error e) :=
  congrArg afterHeader h

theorem next_message (h : ofBytes ρ headerData = .ok message) (hvalid : message.valid = true) :
    next ρ headerData .header = .reading (.payload message) 0 message.body :=
  (congrArg afterHeader h).trans (if_pos hvalid)

theorem next_null (h : ofBytes ρ headerData = .ok message) (hvalid : message.valid ≠ true) :
    next ρ headerData .header = .done (.ok none) :=
  (congrArg afterHeader h).trans (if_neg hvalid)

variable (hloop : readLoop σ headerLength (headerLength + 1) 0 (List.replicate headerLength 0) k =
  some (headerData, k₁))

include hloop

theorem extract_error {e : Exception} (h : ofBytes ρ headerData = .error e) :
    extractFromStream ρ σ k = some (.error e, k₁) := by
  rw [extractFromStream, hloop]
  simp only [Option.bind_eq_bind, Option.bind_some, h]
  rfl

theorem extract_message (h : ofBytes ρ headerData = .ok message) (hvalid : message.valid = true) :
    extractFromStream ρ σ k = (readLoop σ message.payloadSize.toInt.toNat
      (message.payloadSize.toInt.toNat + 1) 0 message.body k₁).bind fun r =>
        some (.ok (some { message with payload := some r.1 }), r.2) := by
  rw [extractFromStream, hloop]
  simp only [Option.bind_eq_bind, Option.bind_some, h, hvalid, if_true]
  rfl

theorem extract_null (h : ofBytes ρ headerData = .ok message) (hvalid : message.valid ≠ true) :
    extractFromStream ρ σ k = some (.ok none, k₁) := by
  rw [extractFromStream, hloop]
  simp only [Option.bind_eq_bind, Option.bind_some, h, hvalid]
  rfl

end Header

/-- **One call.** It ends exactly if the stream has what it asks for, and then
    `extractFromStream` says with what. -/
theorem ends_iff (σ : Splitting) (k : Kernel) :
    (Ends ρ σ.schedule k ↔ Complete ρ k.unread) ∧
      (Ends ρ σ.schedule k ↔ (extractFromStream ρ σ.schedule k).isSome = true) := by
  rcases Nat.lt_or_ge k.unread.length headerLength with hcut | hheader
  · -- the stream ends before or in the header
    have hnot : ¬ Ends ρ σ.schedule k :=
      not_ends_of_short 0 (rfl : run ρ σ.schedule 0 (start, k) = (.reading .header 0 _, k))
        (by rwa [Nat.zero_add])
    have hnone : extractFromStream ρ σ.schedule k = none := by
      rw [extractFromStream, readLoop_short _ _ _ _ _ (by rwa [Nat.zero_add])]
      rfl
    exact ⟨iff_of_false hnot fun h => Nat.not_le_of_lt hcut h.1,
      iff_of_false hnot (by rw [hnone]; exact Bool.false_ne_true)⟩
  · obtain ⟨k₁, hloop, hrest, m, hrun⟩ : ∃ k₁,
        readLoop σ.schedule headerLength (headerLength + 1) 0 (List.replicate headerLength 0) k =
          some (k.unread.take headerLength, k₁) ∧ k₁.unread = k.unread.drop headerLength ∧
        ∃ m, run ρ σ.schedule m (start, k) = (next ρ (k.unread.take headerLength) .header, k₁) :=
      run_full ρ .header σ List.length_replicate hheader
    have hlen := congrArg List.length hrest
    rw [List.length_drop] at hlen
    cases hof : ofBytes ρ (k.unread.take headerLength) with
    | error e =>
      have hends : Ends ρ σ.schedule k := ⟨m, .error e, by rw [hrun, next_error hof]⟩
      refine ⟨iff_of_true hends ⟨hheader, fun m hm => ?_⟩, iff_of_true hends ?_⟩
      · cases hof.symm.trans hm
      · rw [extract_error hloop hof]
        rfl
    | ok message =>
      have hsame {m : TcpNetworkDataMessage}
          (hm : ofBytes ρ (k.unread.take headerLength) = .ok m) : m = message :=
        Except.ok.inj (hm.symm.trans hof)
      by_cases hvalid : message.valid = true
      · rw [next_message hof hvalid] at hrun
        rw [extract_message hloop hof hvalid]
        rcases Nat.lt_or_ge k₁.unread.length message.payloadSize.toInt.toNat with hshort | hfull
        · -- the stream ends in the payload
          have hnot : ¬ Ends ρ σ.schedule k := not_ends_of_short m hrun (by rwa [Nat.zero_add])
          refine ⟨iff_of_false hnot fun h => ?_, iff_of_false hnot ?_⟩
          · have hle := h.2 message hof hvalid
            omega
          · rw [readLoop_short _ _ _ _ _ (by rwa [Nat.zero_add])]
            exact Bool.false_ne_true
        · have hbody : message.body.length = message.payloadSize.toInt.toNat := by
            rw [payloadSize_ofBytes hof, Int.toNat_natCast]
          obtain ⟨k₂, hpayload, -, n, hlast⟩ := run_full ρ (.payload message) σ hbody hfull
          have hends : Ends ρ σ.schedule k := ⟨m + n, _, by rw [run_add, hrun, hlast]; rfl⟩
          refine ⟨iff_of_true hends ⟨hheader, fun m hm _ => ?_⟩, iff_of_true hends ?_⟩
          · rw [hsame hm]
            omega
          · rw [show readLoop σ.schedule message.payloadSize.toInt.toNat
              (message.payloadSize.toInt.toNat + 1) 0 message.body k₁ = some (_, k₂) from hpayload]
            rfl
      · have hends : Ends ρ σ.schedule k := ⟨m, .ok none, by rw [hrun, next_null hof hvalid]⟩
        refine ⟨iff_of_true hends ⟨hheader, fun m hm hm' => ?_⟩, iff_of_true hends ?_⟩
        · rw [hsame hm] at hm'
          exact absurd hm' hvalid
        · rw [extract_null hloop hof hvalid]
          rfl

end Call

namespace TcpClientConnection

/-- Every call of `ExtractFromStream` that `ReadData` makes, on a stream that ends. -/
def EveryCallEnds (ρ : Runtime) (τ : Subscriber) (σ : Schedule) (c : TcpClientConnection) : Prop :=
  ∀ n, (readData ρ τ σ c n).reading = true → Call.Ends ρ σ (readData ρ τ σ c n).kernel

/-- A message as it comes off the stream. -/
def extracted (version : UInt8) (messageType : TcpNetworkDataMessageType) (size : UInt32)
    (payload : Bytes) : TcpNetworkDataMessage :=
  ⟨validSignature, version, messageType, size.toInt32, some payload⟩

/-- With these messages raised, the stream comes to an exception, behind whole messages that the
    subscribers return from, and pieces of a header's length without the signature: to a header
    for whose payload there can be no array, or to a message that a subscriber throws for. -/
inductive Throws (ρ : Runtime) (τ : Subscriber) : List TcpNetworkDataMessage → Bytes → Prop where
  | exception {raised : List TcpNetworkDataMessage} {signature : Bytes} (version : UInt8)
      (messageType : TcpNetworkDataMessageType) {size : UInt32} (rest : Bytes) :
      signature.length = signatureLength → ρ.maxLength < size.toNat →
      Throws ρ τ raised (block signature version messageType size ++ rest)
  | null {raised : List TcpNetworkDataMessage} {signature : Bytes} (version : UInt8)
      (messageType : TcpNetworkDataMessageType) {size : UInt32} {rest : Bytes} :
      signature.length = signatureLength → signature ≠ validSignature →
      size.toNat ≤ ρ.maxLength → Throws ρ τ raised rest →
      Throws ρ τ raised (block signature version messageType size ++ rest)
  | message {raised : List TcpNetworkDataMessage} (version : UInt8)
      (messageType : TcpNetworkDataMessageType) {size : UInt32} {payload rest : Bytes} :
      size.toNat = payload.length → size.toNat ≤ ρ.maxLength →
      Throws ρ τ (raised ++ [extracted version messageType size payload]) rest →
      Throws ρ τ raised (block validSignature version messageType size ++ payload ++ rest)
  | subscriber {raised : List TcpNetworkDataMessage} (version : UInt8)
      (messageType : TcpNetworkDataMessageType) {size : UInt32} {payload : Bytes} (rest : Bytes) :
      size.toNat = payload.length → size.toNat ≤ ρ.maxLength →
      τ raised (extracted version messageType size payload) = true →
      Throws ρ τ raised (block validSignature version messageType size ++ payload ++ rest)

variable {ρ : Runtime} {τ : Subscriber} {σ : Schedule} {c : TcpClientConnection} {k : Kernel}

/-- Out of the loop, no call is made any more. -/
theorem everyCallEnds_left (h : c.reading = false) : EveryCallEnds ρ τ σ c := by
  intro n hn
  rw [readData_left h, h] at hn
  cases hn

theorem everyCallEnds_turn (h : c.reading = true) :
    EveryCallEnds ρ τ σ c ↔ Call.Ends ρ σ c.kernel ∧ EveryCallEnds ρ τ σ (c.turn ρ τ σ) := by
  constructor
  · intro hall
    refine ⟨hall 0 h, fun n hn => ?_⟩
    rw [← readData_succ] at hn ⊢
    exact hall (n + 1) hn
  · rintro ⟨hfirst, hrest⟩ n
    cases n with
    | zero => exact fun _ => hfirst
    | succ n =>
      rw [readData_succ]
      exact hrest n

/-- A message, or `null`, and the loop may go on with the rest of the stream. -/
theorem everyCallEnds_returned (hreading : c.reading = true)
    {message : Option TcpNetworkDataMessage}
    (hcall : extractFromStream ρ σ c.kernel = some (.ok message, k)) :
    EveryCallEnds ρ τ σ c ↔ Call.Ends ρ σ c.kernel ∧
      EveryCallEnds ρ τ σ ({ c with kernel := k }.raiseOnData τ message) := by
  rw [everyCallEnds_turn hreading, turn, if_pos hreading, hcall]

theorem everyCallEnds_exception (hreading : c.reading = true) {e : Exception}
    (hcall : extractFromStream ρ σ c.kernel = some (.error e, k)) :
    EveryCallEnds ρ τ σ c ↔ Call.Ends ρ σ c.kernel := by
  rw [everyCallEnds_turn hreading, turn, if_pos hreading, hcall]
  exact and_iff_left (everyCallEnds_left rfl)

section Block

variable {signature : Bytes} {version : UInt8} {messageType : TcpNetworkDataMessageType}
  {size : UInt32} {rest : Bytes}

/-- A header for whose payload there can be no array: the constructor throws. -/
theorem extractFromStream_throws (σ : Splitting) (hlen : signature.length = signatureLength)
    (hsize : ρ.maxLength < size.toNat)
    (hk : k.unread = block signature version messageType size ++ rest) :
    ∃ e k', extractFromStream ρ σ.schedule k = some (.error e, k') := by
  have hblock := length_block version messageType size hlen
  obtain ⟨k', hheader, -⟩ := readLoop_append σ headerLength (headerLength + 1) []
    (List.replicate headerLength 0) _ _ k (by omega) (by simp [hblock]) (by simp [hblock]) hk
  obtain ⟨e, he⟩ := newArray_of_lt_size hsize
  refine ⟨e, k', Call.extract_error hheader ?_⟩
  rw [List.nil_append, ofBytes_block version messageType size hlen, he]
  rfl

/-- A header of a message, and the payload it announces. -/
theorem extractFromStream_whole (σ : Splitting) {payload : Bytes}
    (hlen : size.toNat = payload.length) (hsize : size.toNat ≤ ρ.maxLength)
    (hk : k.unread = block validSignature version messageType size ++ payload ++ rest) :
    ∃ k', extractFromStream ρ σ.schedule k =
      some (.ok (some (extracted version messageType size payload)), k') ∧ k'.unread = rest := by
  have hmax := ρ.maxLength_lt
  exact extractFromStream_message (ρ := ρ) σ version messageType
    (by rw [toInt_toInt32, if_pos (by omega), hlen]) (by omega) hk

end Block

theorem ends_of_call (σ : Splitting)
    {r : Except Exception (Option TcpNetworkDataMessage) × Kernel}
    (hcall : extractFromStream ρ σ.schedule k = some r) : Call.Ends ρ σ.schedule k :=
  (Call.ends_iff σ k).2.mpr (by rw [hcall]; rfl)

theorem everyCallEnds_of_throws (σ : Splitting) {raised : List TcpNetworkDataMessage}
    {stream : Bytes} (h : Throws ρ τ raised stream) (hreading : c.reading = true)
    (hraised : c.raised = raised) (hk : c.kernel.unread = stream) :
    EveryCallEnds ρ τ σ.schedule c := by
  induction h generalizing c with
  | exception version messageType rest hlen hsize =>
    obtain ⟨e, k, hcall⟩ := extractFromStream_throws σ hlen hsize hk
    exact (everyCallEnds_exception hreading hcall).mpr (ends_of_call σ hcall)
  | null version messageType hlen hne hsize _ ih =>
    obtain ⟨k, hcall, hrest⟩ :=
      extractFromStream_block (ρ := ρ) σ version messageType _ hlen hne hk
    rw [newArray_of_size_le hsize] at hcall
    exact (everyCallEnds_returned hreading hcall).mpr
      ⟨ends_of_call σ hcall, ih (c := { c with kernel := k }) hreading hraised hrest⟩
  | message version messageType hlen hsize _ ih =>
    obtain ⟨k, hcall, hrest⟩ := extractFromStream_whole σ hlen hsize hk
    refine (everyCallEnds_returned hreading hcall).mpr ⟨ends_of_call σ hcall, ?_⟩
    cases hthrows : τ c.raised (extracted version messageType _ _) with
    | true => exact everyCallEnds_left (congrArg not hthrows)
    | false => exact ih (congrArg not hthrows) (congrArg (· ++ _) hraised) hrest
  | subscriber version messageType rest hlen hsize hthrows =>
    obtain ⟨k, hcall, -⟩ := extractFromStream_whole σ hlen hsize hk
    refine (everyCallEnds_returned hreading hcall).mpr ⟨ends_of_call σ hcall, ?_⟩
    rw [← hraised] at hthrows
    exact everyCallEnds_left (congrArg not hthrows)

/-- By induction on the length of the stream, of which every call takes a header at least. -/
theorem throws_of_everyCallEnds (σ : Splitting) (hreading : c.reading = true)
    (h : EveryCallEnds ρ τ σ.schedule c) : Throws ρ τ c.raised c.kernel.unread := by
  induction hn : c.kernel.unread.length using Nat.strong_induction_on generalizing c with
  | _ n ih =>
    obtain ⟨hheader, hpayload⟩ := (Call.ends_iff σ c.kernel).1.mp (h 0 hreading)
    have hsplit := List.take_append_drop headerLength c.kernel.unread
    obtain ⟨signature, version, messageType, size, hlen, hblock⟩ :=
      exists_block (List.length_take_of_le hheader)
    have hrestlen := List.length_drop (i := headerLength) (l := c.kernel.unread)
    rw [hblock] at hsplit hpayload
    rcases Nat.lt_or_ge ρ.maxLength size.toNat with hbig | hsize
    · rw [← hsplit]
      exact .exception version messageType _ hlen hbig
    have hpos : 0 < headerLength := by decide
    by_cases hne : signature = validSignature
    · subst hne
      have hof := ofBytes_block (ρ := ρ) version messageType size hlen
      rw [newArray_of_size_le hsize] at hof
      have hmax := ρ.maxLength_lt
      have hsizeint : size.toInt32.toInt.toNat = size.toNat := by
        rw [toInt_toInt32, if_pos (by omega), Int.toNat_natCast]
      have hle : headerLength + size.toInt32.toInt.toNat ≤ c.kernel.unread.length :=
        hpayload _ hof (beq_self_eq_true _)
      have hwhole := List.take_append_drop size.toNat (c.kernel.unread.drop headerLength)
      have htake : size.toNat = ((c.kernel.unread.drop headerLength).take size.toNat).length := by
        rw [List.length_take, hrestlen]
        omega
      rw [← hwhole, ← List.append_assoc] at hsplit
      obtain ⟨k, hcall, hrest⟩ := extractFromStream_whole σ htake hsize hsplit.symm
      have hnext := ((everyCallEnds_returned hreading hcall).mp h).2
      rw [← hsplit]
      cases hthrows : τ c.raised (extracted version messageType size _) with
      | true => exact .subscriber version messageType _ htake hsize hthrows
      | false =>
        refine .message version messageType htake hsize ?_
        rw [← hrest]
        refine ih k.unread.length ?_ (congrArg not hthrows) hnext rfl
        rw [hrest, List.length_drop, hrestlen]
        omega
    · obtain ⟨k, hcall, hrest⟩ :=
        extractFromStream_block (ρ := ρ) σ version messageType size hlen hne hsplit.symm
      rw [newArray_of_size_le hsize] at hcall
      have hnext := ((everyCallEnds_returned hreading hcall).mp h).2
      rw [← hsplit]
      refine .null version messageType hlen hne hsize ?_
      rw [← hrest]
      refine ih k.unread.length ?_ (c := { c with kernel := k }) hreading hnext rfl
      rw [hrest, hrestlen]
      omega

/-- **The end of the stream.** A call ends exactly if the stream has what it asks for. All calls
    of the thread do exactly if the stream makes a constructor throw, or a subscriber. -/
theorem everyCallEnds_iff (ρ : Runtime) (τ : Subscriber) (σ : Splitting) :
    (∀ k, Call.Ends ρ σ.schedule k ↔ Call.Complete ρ k.unread) ∧
      ∀ stream, EveryCallEnds ρ τ σ.schedule (start stream) ↔ Throws ρ τ [] stream :=
  ⟨fun k => (Call.ends_iff σ k).1, fun _ =>
    ⟨throws_of_everyCallEnds σ rfl, fun h => everyCallEnds_of_throws σ h rfl rfl rfl⟩⟩

/-- The peer closes the connection at once. -/
theorem not_forall_everyCallEnds :
    ¬ ∀ (ρ : Runtime) (τ : Subscriber) (σ : Splitting) (stream : Bytes),
      EveryCallEnds ρ τ σ.schedule (start stream) := by
  intro h
  have hends := h .unlimited (fun _ _ => false) bytewise [] 0 rfl
  have hcomplete := (Call.ends_iff (ρ := .unlimited) bytewise ⟨[], 0, 0, false⟩).1.mp hends
  exact absurd hcomplete.1 (by decide)

end TcpClientConnection

end Navtech.IASDK
