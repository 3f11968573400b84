/-
  `ExtractFromStream` of `csharp/IASDK/Networking/RadarTcpClientConnection.cs`, over the
  kernel of `Tcp_socket`.

  `NetworkStream.Read` is a consuming `recv`. Where it reads nothing the peer has closed, every
  later call reads nothing too, and the loop does not end: `readLoop` is then `none`, and so is
  `extractFromStream`. What is returned otherwise is a message, `null`, or an exception of the
  constructor, which makes room for a payload before the signature is looked at.

  Of a stream that starts with a header and as many bytes as it announces, the message is
  returned and its bytes are taken, however the reads split them (`extractFromStream_message`).
  By induction over the messages, what was sent is what comes back, with the version it was sent
  with (`roundTrip`).
-/
import Navtech.IASDK.TcpNetworkDataMessage
import Navtech.Network.Chunking

namespace Navtech.IASDK

open ByteOrder Buffer ManagedArray TcpNetworkDataMessage
open Navtech.Network (Bytes Kernel Schedule Splitting recv recv_length recv_consume)

/-- Every call hands over a single byte. -/
def bytewise : Splitting where
  schedule := ⟨fun _ _ _ => 1, fun _ _ _ => 1⟩
  peekPos := fun _ _ _ _ _ => Nat.one_pos
  readPos := fun _ _ _ _ _ => Nat.one_pos

/-- The loop that reads until `buffer` holds `count` bytes. Each turn that goes on reads at
    least one byte, so `count + 1` turns are enough. -/
def readLoop (σ : Schedule) (count : Nat) : Nat → Nat → Bytes → Kernel → Option (Bytes × Kernel)
  | 0, _, _, _ => none
  | turns + 1, bytesRead, buffer, k =>
    if bytesRead < count then
      let (chunk, k') := recv σ .consume (count - bytesRead) k
      if chunk.isEmpty then none
      else readLoop σ count turns (bytesRead + chunk.length) (copyTo buffer bytesRead chunk) k'
    else some (buffer, k)

/-- `ExtractFromStream()`. -/
def extractFromStream (ρ : Runtime) (σ : Schedule) (k : Kernel) :
    Option (Except Exception (Option TcpNetworkDataMessage) × Kernel) := do
  let (headerData, k) ← readLoop σ headerLength (headerLength + 1) 0
    (List.replicate headerLength 0) k
  match ofBytes ρ headerData with
  | .error e => return (.error e, k)
  | .ok message =>
    if message.valid then
      let size := message.payloadSize.toInt.toNat
      let (payload, k) ← readLoop σ size (size + 1) 0 message.body k
      return (.ok (some { message with payload := some payload }), k)
    else return (.ok none, k)

/-! ## The loop -/

/-- All the bytes are there: the loop replaces the rest of the buffer by them. -/
theorem readLoop_append (σ : Splitting) (count : Nat) :
    ∀ (turns : Nat) (pre old bytes rest : Bytes) (k : Kernel), bytes.length < turns →
      old.length = bytes.length → count = pre.length + bytes.length →
      k.unread = bytes ++ rest →
      ∃ k', readLoop σ.schedule count turns pre.length (pre ++ old) k = some (pre ++ bytes, k') ∧
        k'.unread = rest
  | 0, _, _, _, _, _, hturns, _, _, _ => absurd hturns (Nat.not_lt_zero _)
  | turns + 1, pre, old, bytes, rest, k, hturns, hold, hcount, hk => by
      rw [readLoop]
      by_cases hmore : pre.length < count
      · have hpos := σ.readPos k.reads (count - pre.length) k.unread.length (by omega) (by
          rw [hk, List.length_append]
          omega)
        -- the read gives some of the bytes that are still missing
        obtain ⟨chunk, later, hchunk, hne, hbytes, hlater⟩ : ∃ chunk later,
            (recv σ.schedule .consume (count - pre.length) k).1 = chunk ∧ 0 < chunk.length ∧
              bytes = chunk ++ later ∧
              (recv σ.schedule .consume (count - pre.length) k).2.unread = later ++ rest := by
          generalize hn : min (σ.schedule.read k.reads (count - pre.length) k.unread.length)
            (count - pre.length) = n
          have hle : n ≤ bytes.length := by omega
          refine ⟨bytes.take n, bytes.drop n, ?_, ?_, (List.take_append_drop n bytes).symm, ?_⟩
          · simp only [recv, hn]
            rw [hk]
            exact List.take_append_of_le_length hle
          · rw [List.length_take]
            omega
          · simp only [recv, hn]
            rw [hk]
            exact List.drop_append_of_le_length hle
        have hlen := congrArg List.length hbytes
        rw [List.length_append] at hlen
        obtain ⟨old₁, old₂, rfl, hold₁⟩ : ∃ old₁ old₂, old = old₁ ++ old₂ ∧
            old₁.length = chunk.length :=
          ⟨old.take chunk.length, old.drop chunk.length, (List.take_append_drop _ _).symm, by
            rw [List.length_take]
            omega⟩
        have hcopy : copyTo (pre ++ (old₁ ++ old₂)) pre.length chunk = (pre ++ chunk) ++ old₂ := by
          rw [← List.append_assoc, copyTo_append rfl hold₁]
        rw [List.length_append] at hold
        obtain ⟨k', hloop, hrest⟩ := readLoop_append σ count turns (pre ++ chunk) old₂ later rest
          (recv σ.schedule .consume (count - pre.length) k).2 (by omega) (by omega)
          (by rw [List.length_append]; omega) hlater
        refine ⟨k', ?_, hrest⟩
        rw [if_pos hmore]
        dsimp only
        rw [hchunk, if_neg (by simpa [← List.length_pos_iff] using hne), hcopy,
          ← List.length_append, hloop, hbytes, List.append_assoc]
      · obtain rfl : bytes = [] := List.length_eq_zero_iff.mp (by omega)
        obtain rfl : old = [] := List.length_eq_zero_iff.mp hold
        exact ⟨k, if_neg hmore, hk⟩

/-- Fewer bytes are there than are asked for: the loop does not end. -/
theorem readLoop_short (σ : Schedule) {count : Nat} :
    ∀ (turns got : Nat) (buffer : Bytes) (k : Kernel), got + k.unread.length < count →
      readLoop σ count turns got buffer k = none
  | 0, _, _, _, _ => rfl
  | turns + 1, got, buffer, k, hshort => by
      obtain ⟨hsplit, -⟩ := recv_consume σ (count - got) k
      have hlen := congrArg List.length hsplit
      rw [List.length_append] at hlen
      rw [readLoop, if_pos (by omega)]
      dsimp only
      split
      · rfl
      · exact readLoop_short σ turns _ _ _ (by omega)

/-- What the loop has taken off the stream when it ends. -/
theorem readLoop_length (σ : Schedule) {count : Nat} :
    ∀ {turns got : Nat} {buffer out : Bytes} {k k' : Kernel}, got ≤ count →
      readLoop σ count turns got buffer k = some (out, k') →
      out.length = buffer.length ∧ k.unread.length = (count - got) + k'.unread.length
  | 0, _, _, _, _, _, _, h => nomatch h
  | turns + 1, got, buffer, out, k, k', hle, h => by
      have hchunk := recv_length σ .consume (count - got) k
      have hlen := congrArg List.length (recv_consume σ (count - got) k).1
      rw [List.length_append] at hlen
      rw [readLoop] at h
      split at h
      · dsimp only at h
        split at h
        · cases h
        · obtain ⟨hout, hk⟩ := readLoop_length σ (by omega) h
          rw [length_copyTo] at hout
          exact ⟨hout, by omega⟩
      · obtain ⟨rfl, rfl⟩ := Prod.mk.inj (Option.some.inj h)
        exact ⟨rfl, by omega⟩

/-! ## Extracting one message -/

variable {ρ : Runtime}

/-- A header and all the bytes it announces: the message is returned. -/
theorem extractFromStream_message (σ : Splitting) {k : Kernel} (version : UInt8)
    (messageType : TcpNetworkDataMessageType) {size : UInt32} {payload rest : Bytes}
    (hsize : size.toInt32.toInt = payload.length) (hroom : payload.length ≤ ρ.maxLength)
    (hk : k.unread = block validSignature version messageType size ++ payload ++ rest) :
    ∃ k', extractFromStream ρ σ.schedule k = some (.ok (some {
        signature := validSignature
        version := version
        messageType := messageType
        payloadSize := size.toInt32
        payload := some payload }), k') ∧ k'.unread = rest := by
  have hvalid : validSignature.length = signatureLength := rfl
  have hlen := length_block version messageType size hvalid
  rw [List.append_assoc] at hk
  obtain ⟨k₁, hheader, hk₁⟩ := readLoop_append σ headerLength (headerLength + 1) []
    (List.replicate headerLength 0) _ _ k (by omega) (by simp [hlen]) (by simp [hlen]) hk
  obtain ⟨k₂, hpayload, hk₂⟩ := readLoop_append σ payload.length (payload.length + 1) []
    (List.replicate payload.length 0) _ _ k₁ (by omega) (by simp) (by simp) hk₁
  refine ⟨k₂, ?_, hk₂⟩
  simp only [List.length_nil, List.nil_append] at hheader hpayload
  have hof := ofBytes_block (ρ := ρ) version messageType size hvalid
  rw [hsize, newArray_of_le hroom] at hof
  simp only [extractFromStream, hheader, hof, Except.map, Option.bind_eq_bind, Option.bind_some,
    valid, body, beq_self_eq_true, if_true, hsize, Int.toNat_natCast, Option.getD_some, hpayload]
  rfl

/-- Any other 22 bytes: `null`, or an exception where there can be no array of the size they
    announce. The bytes are taken either way. -/
theorem extractFromStream_block (σ : Splitting) {k : Kernel} {signature : Bytes} (version : UInt8)
    (messageType : TcpNetworkDataMessageType) (size : UInt32) {rest : Bytes}
    (hlen : signature.length = signatureLength) (hne : signature ≠ validSignature)
    (hk : k.unread = block signature version messageType size ++ rest) :
    ∃ k', extractFromStream ρ σ.schedule k =
      some ((newArray ρ size.toInt32.toInt).map fun _ => none, k') ∧ k'.unread = rest := by
  have hblock := length_block version messageType size hlen
  obtain ⟨k', hheader, hk'⟩ := readLoop_append σ headerLength (headerLength + 1) []
    (List.replicate headerLength 0) _ _ k (by omega) (by simp [hblock]) (by simp [hblock]) hk
  refine ⟨k', ?_, hk'⟩
  simp only [List.length_nil, List.nil_append] at hheader
  simp only [extractFromStream, hheader, ofBytes_block (ρ := ρ) version messageType size hlen,
    Option.bind_eq_bind, Option.bind_some]
  cases newArray ρ size.toInt32.toInt with
  | error e => rfl
  | ok zeros => simp [Except.map, valid, hne]

/-- A call that returns has taken a header, and the payload of the message it returns. -/
theorem extractFromStream_length (σ : Schedule) {k k' : Kernel}
    {message : Option TcpNetworkDataMessage}
    (h : extractFromStream ρ σ k = some (.ok message, k')) :
    k.unread.length = headerLength + message.elim 0 (fun m => m.body.length) +
      k'.unread.length := by
  obtain ⟨⟨headerData, k₁⟩, hheader, h⟩ := Option.bind_eq_some_iff.mp h
  obtain ⟨-, hk₁⟩ := readLoop_length σ (Nat.zero_le _) hheader
  cases hof : ofBytes ρ headerData with
  | error e => simp [hof] at h
  | ok m =>
    have hsize := payloadSize_ofBytes hof
    simp only [hof] at h
    split at h
    · obtain ⟨⟨payload, k₂⟩, hpayload, h⟩ := Option.bind_eq_some_iff.mp h
      obtain ⟨hout, hk₂⟩ := readLoop_length σ (Nat.zero_le _) hpayload
      obtain ⟨hmessage, rfl⟩ := Prod.mk.inj (Option.some.inj h)
      rw [← Except.ok.inj hmessage, Option.elim_some]
      show k.unread.length = headerLength + payload.length + k₂.unread.length
      omega
    · obtain ⟨hmessage, rfl⟩ := Prod.mk.inj (Option.some.inj h)
      rw [← Except.ok.inj hmessage, Option.elim_none]
      show k.unread.length = headerLength + 0 + k₁.unread.length
      omega

/-! ## Round trip -/

/-- Calls that return a message each, with the bytes that each has taken. -/
inductive Extracts (ρ : Runtime) (σ : Schedule) :
    Kernel → List (TcpNetworkDataMessage × Bytes) → Kernel → Prop where
  | done (k : Kernel) : Extracts ρ σ k [] k
  | call {k k₁ k₂ : Kernel} {m : TcpNetworkDataMessage} {taken : Bytes}
      {calls : List (TcpNetworkDataMessage × Bytes)} :
      extractFromStream ρ σ k = some (.ok (some m), k₁) → k.unread = taken ++ k₁.unread →
      Extracts ρ σ k₁ calls k₂ → Extracts ρ σ k ((m, taken) :: calls) k₂

/-- A message that was sent, and the one that is returned for it. -/
structure Returned (sent m : TcpNetworkDataMessage) : Prop where
  messageType : m.messageType = sent.messageType
  version : m.version = sent.version
  payloadSize : m.payloadSize = sent.payloadSize
  payload : m.payload = some sent.body

/-- The bytes of a message, in front of the stream. -/
theorem extractFromStream_data (σ : Splitting) {sent : TcpNetworkDataMessage} {d rest : Bytes}
    {k : Kernel} (hbuilt : Built ρ sent) (hdata : sent.data ρ = .ok d)
    (hk : k.unread = d ++ rest) :
    ∃ m k', extractFromStream ρ σ.schedule k = some (.ok (some m), k') ∧ k'.unread = rest ∧
      Returned sent m := by
  have hsize := hbuilt.payloadSize
  have hroom := le_maxLength_of_data hsize hdata
  obtain rfl := Except.ok.inj ((data_eq_block hsize hroom).symm.trans hdata)
  have hword : sent.payloadSize.toUInt32.toInt32 = sent.payloadSize :=
    Int32.toInt32_toUInt32 sent.payloadSize
  obtain ⟨k', hcall, hrest⟩ := extractFromStream_message (ρ := ρ) σ sent.version sent.messageType
    (by rw [hword, hsize]) (by omega) hk
  exact ⟨_, k', hcall, hrest, rfl, rfl, hword, rfl⟩

/-- **Round trip.** However the reads split the bytes of a list of messages, as many calls
    return the messages, in order, each after taking the bytes of its message. -/
theorem roundTrip (ρ : Runtime) (σ : Splitting) (messages : List TcpNetworkDataMessage)
    (datas : List Bytes) (rest : Bytes) (k : Kernel) (hbuilt : ∀ m ∈ messages, Built ρ m)
    (hdata : List.Forall₂ (fun m d => m.data ρ = .ok d) messages datas)
    (hk : k.unread = datas.flatten ++ rest) :
    ∃ calls k', Extracts ρ σ.schedule k calls k' ∧ k'.unread = rest ∧
      calls.map Prod.snd = datas ∧ List.Forall₂ Returned messages (calls.map Prod.fst) := by
  induction hdata generalizing k with
  | nil => exact ⟨[], k, .done k, by simpa using hk, rfl, .nil⟩
  | cons hd _ ih =>
    rw [List.flatten_cons, List.append_assoc] at hk
    obtain ⟨m, k₁, hcall, hrest, hm⟩ :=
      extractFromStream_data σ (hbuilt _ List.mem_cons_self) hd hk
    obtain ⟨calls, k₂, hcalls, hk₂, hsnd, hfst⟩ :=
      ih k₁ (fun m hm => hbuilt m (List.mem_cons_of_mem _ hm)) hrest
    refine ⟨(m, _) :: calls, k₂, .call hcall (hk.trans (by rw [hrest])) hcalls, hk₂, ?_, ?_⟩
    · rw [List.map_cons, hsnd]
    · exact .cons hm hfst

/-- What the messages are sent as comes back with the version 1. -/
def ReturnedWithVersionOne (ρ : Runtime) (messages : List TcpNetworkDataMessage) : Prop :=
  ∀ (σ : Splitting) (datas : List Bytes) (k : Kernel),
    List.Forall₂ (fun m d => m.data ρ = .ok d) messages datas → k.unread = datas.flatten →
    ∃ calls k', Extracts ρ σ.schedule k calls k' ∧
      List.Forall₂ (fun _ m => m.version = 1) messages (calls.map Prod.fst)

/-- What a message is sent as tells its version. -/
theorem not_returnedWithVersionOne {sent : TcpNetworkDataMessage} {d : Bytes}
    (hbuilt : Built ρ sent) (hdata : sent.data ρ = .ok d) (hversion : sent.version ≠ 1) :
    ¬ ReturnedWithVersionOne ρ [sent] := by
  intro h
  obtain ⟨calls, k', hcalls, hall⟩ := h bytewise [d] ⟨d, 0, 0, false⟩ (.cons hdata .nil)
    (List.append_nil d).symm
  obtain ⟨m, k₁, hcall, -, hreturned⟩ := extractFromStream_data bytewise hbuilt hdata
    (show (⟨d, 0, 0, false⟩ : Kernel).unread = d ++ [] from (List.append_nil d).symm)
  cases hcalls with
  | done => exact nomatch hall
  | @call _ k₂ _ m' taken others hfirst _ _ =>
    have hsame : m = m' := by
      have hpair := hcall.symm.trans hfirst
      exact Option.some.inj (Except.ok.inj (Prod.mk.inj (Option.some.inj hpair)).1)
    cases hall with
    | cons hone _ => exact hversion (hreturned.version.symm.trans (hsame ▸ hone))

/-- A message built without arguments has the version 0, and one built from a header that of the
    header. -/
theorem not_forall_returnedWithVersionOne :
    (Built .unlimited .new ∧ ¬ ReturnedWithVersionOne .unlimited [.new]) ∧
      ∃ m, TcpNetworkDataMessage.ofBytes .unlimited (block validSignature 2 21 0) = .ok m ∧
        ¬ ReturnedWithVersionOne .unlimited [m] := by
  refine ⟨⟨.new, not_returnedWithVersionOne (d := block validSignature 0 0 0) .new (by decide)
    (by decide)⟩, ⟨validSignature, 2, 21, 0, some []⟩, by decide, ?_⟩
  exact not_returnedWithVersionOne (d := block validSignature 2 21 0)
    (.ofBytes (show TcpNetworkDataMessage.ofBytes .unlimited (block validSignature 2 21 0) = _ by
      decide)) (by decide) (by decide)

/-- A command and a threshold, read byte by byte. -/
theorem roundTrip_bytewise :
    ∃ calls k', Extracts .unlimited bytewise.schedule
        ⟨Network.frameBytes 21 [] ++ Network.frameBytes 122 [0, 80], 0, 0, false⟩ calls k' ∧
      k'.unread = [] ∧
      calls.map Prod.snd = [Network.frameBytes 21 [], Network.frameBytes 122 [0, 80]] ∧
      List.Forall₂ Returned [.ofType .startFftData, .ofPayload .setNavThreshold [0, 80]]
        (calls.map Prod.fst) :=
  roundTrip .unlimited bytewise [.ofType .startFftData, .ofPayload .setNavThreshold [0, 80]]
    [Network.frameBytes 21 [], Network.frameBytes 122 [0, 80]] [] _
    (by simp [Built.ofType, Built.ofPayload, headerLength, signatureLength, versionLength,
      messageTypeLength, payloadLength])
    (.cons (by decide) (.cons (by decide) .nil)) (by simp)

end Navtech.IASDK
