/-
  The reading thread of `csharp/IASDK/Networking/TcpClientConnection.cs` with the messages of
  `RadarTcpClientConnection`, on a stream that starts with junk.

  `readData` is the loop of `ReadData`, from one call of `ExtractFromStream` to the next. A
  call that does not return leaves the thread where it is. An exception makes the thread
  disconnect, whether it comes from the call or from a subscriber of `OnData`, which is called
  in the same `try`. Which messages a subscriber throws for is a parameter, `τ`;
  `RadarTcpClient` throws for short ones.

  The thread never looks for the signature: it takes the stream in pieces of a header's
  length, until one of them starts with the signature. So junk is passed over if it is made of
  such pieces, and if none of them announces a size for which there can be no array
  (`Skippable`). Otherwise the thread disconnects, or it takes bytes of a frame for a header,
  and what is left is then less than the frames (`weight`). Behind the junk, every frame is
  raised as long as no subscriber throws for one before it.
-/
import Mathlib.Algebra.Order.BigOperators.Group.List
import Navtech.IASDK.RadarTcpClient
import Navtech.IASDK.RadarTcpClientConnection

namespace Navtech.IASDK

open ByteOrder Buffer ManagedArray TcpNetworkDataMessage
open Navtech.Network (Bytes Kernel Schedule Splitting Frame)

/-- Whether the subscribers of `OnData` throw for a message, behind those raised before. -/
abbrev Subscriber := List TcpNetworkDataMessage → TcpNetworkDataMessage → Bool

/-- `RadarTcpClient` as the subscriber, with subscribers of its own that return. -/
def RadarTcpClient.throws (ρ : Runtime) (c : RadarTcpClient) : Subscriber := fun _ message =>
  match c.onDataHandler ρ message with
  | .ok _ => false
  | .error _ => true

structure TcpClientConnection where
  kernel : Kernel
  /-- `Reading`; where it is down the loop has been left. -/
  reading : Bool
  /-- The payloads of `OnData`, oldest first. -/
  raised : List TcpNetworkDataMessage
deriving DecidableEq, Repr

namespace TcpClientConnection

/-- The thread as the setter of `TcpClient` starts it. -/
def start (stream : Bytes) : TcpClientConnection := ⟨⟨stream, 0, 0, false⟩, true, []⟩

/-- `RaiseOnData(message)`, and `Disconnect()` where that throws. -/
def raiseOnData (τ : Subscriber) (c : TcpClientConnection) :
    Option TcpNetworkDataMessage → TcpClientConnection
  | none => c
  | some message =>
    { c with raised := c.raised ++ [message], reading := !τ c.raised message }

/-- A turn of the loop of `ReadData`. -/
def turn (ρ : Runtime) (τ : Subscriber) (σ : Schedule) (c : TcpClientConnection) :
    TcpClientConnection :=
  if c.reading then
    match extractFromStream ρ σ c.kernel with
    | none => c
    | some (.ok message, k) => { c with kernel := k }.raiseOnData τ message
    | some (.error _, k) => { c with kernel := k, reading := false }
  else c

/-- `n` turns. -/
def readData (ρ : Runtime) (τ : Subscriber) (σ : Schedule) (c : TcpClientConnection) :
    Nat → TcpClientConnection
  | 0 => c
  | n + 1 => (readData ρ τ σ c n).turn ρ τ σ

/-- The message that is returned for a frame. -/
def messageOf (f : Frame) : TcpNetworkDataMessage := received f.type f.payload

/-- `OnData` is raised for every frame, in order. -/
def RaisesAll (ρ : Runtime) (τ : Subscriber) (σ : Schedule) (stream : Bytes)
    (frames : List Frame) : Prop :=
  ∃ n, (frames.map messageOf).Sublist (readData ρ τ σ (start stream) n).raised

/-- The subscribers do not throw for a frame that has another one behind it. -/
def Handled (τ : Subscriber) (frames : List Frame) : Prop :=
  ∀ before f after, frames = before ++ f :: after → after ≠ [] →
    τ (before.map messageOf) (messageOf f) = false

/-- Pieces of a header's length, none of which announces more than can be had. -/
inductive Skippable (ρ : Runtime) : Bytes → Prop where
  | nil : Skippable ρ []
  | block {signature : Bytes} (version : UInt8) (messageType : TcpNetworkDataMessageType)
      {size : UInt32} {rest : Bytes} : signature.length = signatureLength →
      size.toNat ≤ ρ.maxLength → Skippable ρ rest →
      Skippable ρ (TcpNetworkDataMessage.block signature version messageType size ++ rest)

variable {ρ : Runtime} {τ : Subscriber} {c : TcpClientConnection}

/-- Junk that is skipped is cut in pieces of a header's length. -/
theorem Skippable.dvd_length {junk : Bytes} (h : Skippable ρ junk) :
    headerLength ∣ junk.length := by
  induction h with
  | nil => exact Nat.dvd_zero _
  | block version messageType hlen _ _ ih =>
    rw [List.length_append, length_block version messageType _ hlen]
    exact Nat.dvd_add (Nat.dvd_refl _) ih

theorem readData_add (σ : Schedule) (m n : Nat) :
    readData ρ τ σ c (m + n) = readData ρ τ σ (readData ρ τ σ c m) n := by
  induction n with
  | zero => rfl
  | succ n ih => exact congrArg (turn ρ τ σ) ih

theorem readData_succ (σ : Schedule) (n : Nat) :
    readData ρ τ σ c (n + 1) = readData ρ τ σ (c.turn ρ τ σ) n := by
  rw [Nat.add_comm, readData_add]
  rfl

/-! ## Frames -/

theorem newArray_of_size_le {size : UInt32} (h : size.toNat ≤ ρ.maxLength) :
    newArray ρ size.toInt32.toInt = .ok (List.replicate size.toNat 0) := by
  have hmax := ρ.maxLength_lt
  rw [toInt_toInt32, if_pos (by omega)]
  exact newArray_of_le h

theorem newArray_of_lt_size {size : UInt32} (h : ρ.maxLength < size.toNat) :
    ∃ e, newArray ρ size.toInt32.toInt = .error e := by
  have hlt : size.toNat < 4294967296 := size.toNat_lt
  rw [toInt_toInt32]
  unfold newArray
  split
  · rw [if_neg (by omega), if_pos (by omega)]
    exact ⟨_, rfl⟩
  · rw [if_pos (by omega)]
    exact ⟨_, rfl⟩

/-- A frame of the protocol is a header and its payload. -/
theorem bytes_eq_block (f : Frame) :
    f.bytes = block validSignature protocolVersion f.type (UInt32.ofNat f.payload.length) ++
      f.payload := by
  have hlt : f.payload.length < 2 ^ 32 := lt_trans f.small (by decide)
  have hn : (UInt32.ofNat f.payload.length).toNat = f.payload.length :=
    UInt32.toNat_ofNat_of_lt hlt
  rw [block, hn]
  rfl

theorem turn_frame (σ : Splitting) (hreading : c.reading = true) (f : Frame) {rest : Bytes}
    (hk : c.kernel.unread = f.bytes ++ rest) :
    ∃ k, c.turn ρ τ σ.schedule = ⟨k, !τ c.raised (messageOf f),
      c.raised ++ [messageOf f]⟩ ∧ k.unread = rest := by
  have hlt : f.payload.length < 1000000 := f.small
  have hroom := ρ.le_maxLength
  have hn : (UInt32.ofNat f.payload.length).toNat = f.payload.length :=
    UInt32.toNat_ofNat_of_lt (lt_trans hlt (by decide))
  have hint : (UInt32.ofNat f.payload.length).toInt32.toInt = f.payload.length := by
    rw [toInt_toInt32, hn, if_pos (by omega)]
  have hsize : (UInt32.ofNat f.payload.length).toInt32 = Int32.ofNat f.payload.length := by
    rw [← Int32.toInt_inj, hint, Int32.toInt_ofNat_of_lt (by omega)]
  rw [bytes_eq_block] at hk
  obtain ⟨k, hcall, hrest⟩ := extractFromStream_message (ρ := ρ) σ protocolVersion f.type hint
    (by omega) hk
  refine ⟨k, ?_, hrest⟩
  rw [turn, if_pos hreading, hcall, hsize]
  rfl

/-- Out of the loop, nothing happens any more. -/
theorem readData_left {σ : Schedule} (h : c.reading = false) (n : Nat) :
    readData ρ τ σ c n = c := by
  induction n with
  | zero => rfl
  | succ n ih =>
    have hturn : c.turn ρ τ σ = c := if_neg (by rw [h]; exact Bool.false_ne_true)
    rw [readData_succ, hturn, ih]

/-- The frames up to one that a subscriber throws for, which may be the last. -/
theorem readData_frames (σ : Splitting) {before after : List Frame} (f : Frame)
    (hreading : c.reading = true) (hk : c.kernel.unread = Frame.stream (before ++ f :: after))
    (hhandled : ∀ pre g post, before = pre ++ g :: post →
      τ (c.raised ++ pre.map messageOf) (messageOf g) = false) :
    ∃ k, readData ρ τ σ.schedule c (before.length + 1) =
        ⟨k, !τ (c.raised ++ before.map messageOf) (messageOf f),
          c.raised ++ (before ++ [f]).map messageOf⟩ ∧ k.unread = Frame.stream after := by
  induction before generalizing c with
  | nil =>
    rw [List.nil_append, Frame.stream_cons] at hk
    obtain ⟨k, hturn, hrest⟩ := turn_frame (ρ := ρ) (τ := τ) σ hreading f hk
    refine ⟨k, ?_, hrest⟩
    rw [readData_succ, hturn, List.map_nil, List.append_nil]
    rfl
  | cons g before ih =>
    rw [List.cons_append, Frame.stream_cons] at hk
    obtain ⟨k, hturn, hrest⟩ := turn_frame (ρ := ρ) (τ := τ) σ hreading g hk
    have hfirst := hhandled [] g before rfl
    rw [List.map_nil, List.append_nil] at hfirst
    rw [hfirst, Bool.not_false] at hturn
    obtain ⟨k', hrun, hrest'⟩ := ih (c := ⟨k, true, c.raised ++ [messageOf g]⟩) rfl hrest
      fun pre g' post hsplit => by
        have hthrows := hhandled (g :: pre) g' post (by rw [hsplit]; rfl)
        rwa [List.map_cons, ← List.singleton_append, ← List.append_assoc] at hthrows
    refine ⟨k', ?_, hrest'⟩
    rw [List.length_cons, readData_succ, hturn, hrun]
    simp

/-! ## Junk -/

section Block

variable (σ : Splitting) {signature : Bytes} {version : UInt8}
  {messageType : TcpNetworkDataMessageType} {size : UInt32} {rest : Bytes}

theorem turn_null (hreading : c.reading = true) (hlen : signature.length = signatureLength)
    (hne : signature ≠ validSignature) (hsize : size.toNat ≤ ρ.maxLength)
    (hk : c.kernel.unread = block signature version messageType size ++ rest) :
    ∃ k, c.turn ρ τ σ.schedule = { c with kernel := k } ∧ k.unread = rest := by
  obtain ⟨k, hcall, hrest⟩ :=
    extractFromStream_block (ρ := ρ) σ version messageType size hlen hne hk
  refine ⟨k, ?_, hrest⟩
  rw [newArray_of_size_le hsize] at hcall
  simp [turn, hreading, hcall, Except.map, raiseOnData]

theorem turn_exception (hreading : c.reading = true) (hlen : signature.length = signatureLength)
    (hne : signature ≠ validSignature) (hsize : ρ.maxLength < size.toNat)
    (hk : c.kernel.unread = block signature version messageType size ++ rest) :
    ∃ k, c.turn ρ τ σ.schedule = { c with kernel := k, reading := false } ∧ k.unread = rest := by
  obtain ⟨k, hcall, hrest⟩ :=
    extractFromStream_block (ρ := ρ) σ version messageType size hlen hne hk
  obtain ⟨e, he⟩ := newArray_of_lt_size hsize
  refine ⟨k, ?_, hrest⟩
  rw [he] at hcall
  simp [turn, hreading, hcall, Except.map]

end Block

/-- Bytes raised and bytes that can still be. -/
def weight (c : TcpClientConnection) : Nat :=
  (c.raised.map fun m => headerLength + m.body.length).sum +
    if c.reading then c.kernel.unread.length else 0

theorem turn_weight (σ : Schedule) : (c.turn ρ τ σ).weight ≤ c.weight := by
  unfold turn
  split
  · rename_i hreading
    cases hcall : extractFromStream ρ σ c.kernel with
    | none => exact le_rfl
    | some r =>
      obtain ⟨result, k⟩ := r
      cases result with
      | error e => simp [weight]
      | ok message =>
        have hlen := extractFromStream_length σ hcall
        cases message with
        | none =>
          simp [weight, raiseOnData, hreading, hlen]
        | some m =>
          cases hthrows : τ c.raised m with
          | false =>
            simp [weight, raiseOnData, hreading, hlen, hthrows]
            omega
          | true => simp [weight, raiseOnData, hreading, hlen, hthrows]
  · exact le_rfl

theorem readData_weight (σ : Schedule) (n : Nat) : (readData ρ τ σ c n).weight ≤ c.weight := by
  induction n with
  | zero => exact le_rfl
  | succ n ih => exact (turn_weight σ).trans ih

/-- What has been raised stays raised. -/
theorem readData_raised (σ : Schedule) (n : Nat) :
    c.raised <+: (readData ρ τ σ c n).raised := by
  induction n with
  | zero => exact List.prefix_rfl
  | succ n ih =>
    refine ih.trans ?_
    rw [readData, turn]
    split
    · split
      · exact List.prefix_rfl
      · rename_i message _ _
        cases message with
        | none => exact List.prefix_rfl
        | some m => exact List.prefix_append _ _
      · exact List.prefix_rfl
    · exact List.prefix_rfl

theorem sum_messageOf (frames : List Frame) :
    ((frames.map messageOf).map fun m => headerLength + m.body.length).sum =
      (Frame.stream frames).length := by
  induction frames with
  | nil => rfl
  | cons f frames ih =>
    rw [Frame.stream_cons, List.length_append, Frame.length_bytes, ← ih]
    rfl

/-- Too little is left for all the frames to be raised. -/
theorem not_raisesAll_of_weight {σ : Schedule} {stream : Bytes} {frames : List Frame} {n : Nat}
    (h : (readData ρ τ σ (start stream) n).weight < (Frame.stream frames).length) :
    ¬ RaisesAll ρ τ σ stream frames := by
  intro hall
  obtain ⟨m, hsub⟩ := hall
  have hlater := readData_weight (c := readData ρ τ σ (start stream) n) (ρ := ρ) (τ := τ) σ m
  have hall := hsub.trans (readData_raised (ρ := ρ) (τ := τ) σ n).sublist
  rw [← readData_add, Nat.add_comm, readData_add] at hlater
  have hsum := (hall.map fun m => headerLength + m.body.length).sum_le_sum fun _ _ => Nat.zero_le _
  rw [sum_messageOf] at hsum
  exact Nat.lt_irrefl _ (h.trans_le (hsum.trans ((Nat.le_add_right _ _).trans hlater)))

/-- Junk made of pieces that can be skipped is taken, and nothing is raised. -/
theorem readData_skippable (σ : Splitting) {junk rest : Bytes} (h : Skippable ρ junk)
    (hreading : c.reading = true) (hk : c.kernel.unread = junk ++ rest)
    (hj : ¬ validSignature <:+: junk) :
    ∃ n k, readData ρ τ σ.schedule c n = { c with kernel := k } ∧ k.unread = rest := by
  induction h generalizing c with
  | nil => exact ⟨0, c.kernel, rfl, hk⟩
  | @block signature version messageType size junk hlen hsize _ ih =>
    have hne : signature ≠ validSignature := by
      rintro rfl
      exact hj ⟨[], [version, messageType] ++ beBytes 4 size.toNat ++ junk, by simp [block]⟩
    rw [List.append_assoc] at hk
    obtain ⟨k, hturn, hrest⟩ := turn_null (ρ := ρ) (τ := τ) σ hreading hlen hne hsize hk
    obtain ⟨n, k', hrun, hrest'⟩ := ih (c := { c with kernel := k }) hreading hrest
      fun hi => hj (hi.trans (List.suffix_append _ junk).isInfix)
    refine ⟨n + 1, k', ?_, hrest'⟩
    rw [readData_succ, hturn, hrun]

/-- Other junk in front of frames: the thread disconnects, or it takes bytes of a frame. -/
theorem readData_not_skippable (σ : Splitting) {frames : List Frame} (hframes : frames ≠ [])
    {junk : Bytes} (hskip : ¬ Skippable ρ junk) (hreading : c.reading = true)
    (hraised : c.raised = []) (hk : c.kernel.unread = junk ++ Frame.stream frames)
    (hj : ¬ validSignature <:+: junk) :
    ∃ n, (readData ρ τ σ.schedule c n).weight < (Frame.stream frames).length := by
  induction hn : junk.length using Nat.strong_induction_on generalizing junk c with
  | _ n ih =>
    have hjunk : 0 < junk.length := List.length_pos_iff.mpr fun h => hskip (h ▸ .nil)
    obtain ⟨f, fs, rfl⟩ := List.exists_cons_of_ne_nil hframes
    have hstream : headerLength ≤ (Frame.stream (f :: fs)).length := by
      rw [Frame.stream_cons, List.length_append, Frame.length_bytes]
      exact Nat.le_trans (Nat.le_add_right _ _) (Nat.le_add_right _ _)
    have hmiss := Network.Signature.marker.not_match_in_junk hj
      (s := Frame.stream (f :: fs)) (fun _ => rfl) hjunk
    have htake : ((junk ++ Frame.stream (f :: fs)).take headerLength).length = headerLength := by
      rw [List.length_take, List.length_append]
      omega
    -- the first piece does not start with the signature
    obtain ⟨signature, version, messageType, size, hlen, hpiece⟩ :=
      exists_block htake
    have hsplit := List.take_append_drop headerLength (junk ++ Frame.stream (f :: fs))
    rw [hpiece] at hsplit
    have hne : signature ≠ validSignature := by
      rintro rfl
      rw [← hsplit] at hmiss
      exact hmiss ⟨[version, messageType] ++ beBytes 4 size.toNat ++ _, by simp [block]; rfl⟩
    have hkernel := hk.trans hsplit.symm
    rcases Nat.lt_or_ge ρ.maxLength size.toNat with hbig | hsize
    · -- no array can be had, and the thread disconnects
      obtain ⟨k, hturn, -⟩ := turn_exception (ρ := ρ) (τ := τ) σ hreading hlen hne hbig hkernel
      refine ⟨1, ?_⟩
      rw [readData_succ, hturn]
      simp [readData, weight, hraised]
      exact Nat.lt_of_lt_of_le (by decide) hstream
    · obtain ⟨k, hturn, hrest⟩ := turn_null (ρ := ρ) (τ := τ) σ hreading hlen hne hsize hkernel
      rcases Nat.lt_or_ge junk.length headerLength with hshort | hlong
      · -- the piece ends inside the frames
        refine ⟨1, ?_⟩
        rw [readData_succ, hturn]
        simp [readData, weight, hraised, hreading, hrest]
        omega
      · -- the piece lies in the junk, and the rest of the junk cannot be skipped either
        have hjunksplit := List.take_append_drop headerLength junk
        rw [List.drop_append_of_le_length hlong] at hrest
        rw [List.take_append_of_le_length hlong] at hpiece
        have hskip' : ¬ Skippable ρ (junk.drop headerLength) := by
          intro h
          rw [← hjunksplit, hpiece] at hskip
          exact hskip (.block version messageType hlen hsize h)
        obtain ⟨m, hm⟩ := ih (junk.drop headerLength).length (by
          rw [List.length_drop, ← hn]
          exact Nat.sub_lt hjunk (by decide)) (c := { c with kernel := k }) hskip' hreading hraised
          hrest (fun h => hj (h.trans (List.drop_suffix _ junk).isInfix)) rfl
        refine ⟨m + 1, ?_⟩
        rw [readData_succ, hturn]
        exact hm

/-- Frames behind which others come are not all handled: one of them is the last to be raised. -/
theorem not_handled_iff {frames : List Frame} :
    ¬ Handled τ frames ↔ ∃ before f after, frames = before ++ f :: after ∧ after ≠ [] ∧
      τ (before.map messageOf) (messageOf f) = true := by
  simp only [Handled, not_forall, Bool.not_eq_false, exists_prop]

/-- The subscribers throw for a frame, and those behind it are not raised. -/
theorem readData_not_handled (σ : Splitting) {frames : List Frame} (hnot : ¬ Handled τ frames)
    (hreading : c.reading = true) (hraised : c.raised = [])
    (hk : c.kernel.unread = Frame.stream frames) :
    ∃ n, (readData ρ τ σ.schedule c n).weight < (Frame.stream frames).length := by
  classical
  -- the first frame for which they throw
  have hexists : ∃ m, ∃ before f after, before.length = m ∧ frames = before ++ f :: after ∧
      after ≠ [] ∧ τ (before.map messageOf) (messageOf f) = true := by
    obtain ⟨before, f, after, h⟩ := not_handled_iff.mp hnot
    exact ⟨_, before, f, after, rfl, h⟩
  obtain ⟨before, f, after, hlen, rfl, hafter, hthrows⟩ := Nat.find_spec hexists
  have hhandled : ∀ pre g post, before = pre ++ g :: post →
      τ (c.raised ++ pre.map messageOf) (messageOf g) = false := by
    intro pre g post hsplit
    rw [hraised, List.nil_append, ← Bool.not_eq_true]
    intro hg
    refine Nat.find_min hexists (m := pre.length) ?_ ⟨pre, g, post ++ f :: after, rfl, ?_, ?_, hg⟩
    · rw [← hlen, hsplit, List.length_append, List.length_cons]
      omega
    · rw [hsplit, List.append_assoc]
      rfl
    · exact List.append_ne_nil_of_right_ne_nil _ (List.cons_ne_nil _ _)
  obtain ⟨k, hrun, -⟩ := readData_frames (ρ := ρ) σ f hreading hk hhandled
  refine ⟨before.length + 1, ?_⟩
  rw [hrun, hraised]
  rw [List.nil_append, List.nil_append, hthrows]
  have hsum := sum_messageOf (before ++ [f])
  have hstream : Frame.stream (before ++ f :: after) =
      Frame.stream (before ++ [f]) ++ Frame.stream after := by
    unfold Frame.stream
    rw [← List.flatMap_append, List.append_assoc]
    rfl
  have hrest : 0 < (Frame.stream after).length := by
    obtain ⟨g, others, rfl⟩ := List.exists_cons_of_ne_nil hafter
    rw [Frame.stream_cons, List.length_append, Frame.length_bytes]
    exact Nat.lt_of_lt_of_le (show 0 < headerLength by decide)
      (Nat.le_trans (Nat.le_add_right _ _) (Nat.le_add_right _ _))
  rw [hstream, List.length_append, ← hsum]
  exact Nat.lt_add_of_pos_right hrest

/-- **Recovery after junk.** In front of any frames, junk without the signature is recovered
    from exactly when it is made of pieces that can be skipped, and no subscriber throws for a
    frame but the last. -/
theorem raisesAll_iff (ρ : Runtime) (τ : Subscriber) (σ : Splitting) (junk : Bytes)
    (frames : List Frame) (hj : ¬ validSignature <:+: junk) :
    RaisesAll ρ τ σ.schedule (junk ++ Frame.stream frames) frames ↔
      frames = [] ∨ Skippable ρ junk ∧ Handled τ frames := by
  constructor
  · intro hall
    refine or_iff_not_imp_left.mpr fun hframes => ?_
    by_contra hnot
    by_cases hskip : Skippable ρ junk
    · obtain ⟨n, k, hrun, hrest⟩ := readData_skippable (ρ := ρ) (τ := τ) σ hskip
        (c := start (junk ++ Frame.stream frames)) rfl rfl hj
      obtain ⟨m, hweight⟩ := readData_not_handled (ρ := ρ) σ
        (fun hhandled => hnot ⟨hskip, hhandled⟩) (c := { start _ with kernel := k }) rfl rfl hrest
      rw [← hrun, ← readData_add] at hweight
      exact not_raisesAll_of_weight hweight hall
    · obtain ⟨n, hweight⟩ := readData_not_skippable σ hframes hskip
        (c := start (junk ++ Frame.stream frames)) rfl rfl rfl hj
      exact not_raisesAll_of_weight hweight hall
  · intro h
    rcases h with rfl | ⟨hskip, hhandled⟩
    · exact ⟨0, List.Sublist.refl _⟩
    · obtain ⟨n, k, hrun, hrest⟩ := readData_skippable (ρ := ρ) (τ := τ) σ hskip
        (c := start (junk ++ Frame.stream frames)) rfl rfl hj
      rcases List.eq_nil_or_concat' frames with rfl | ⟨before, f, rfl⟩
      · exact ⟨0, List.Sublist.refl _⟩
      · obtain ⟨k', hlast, -⟩ := readData_frames (ρ := ρ) (τ := τ) σ f
          (c := { start (junk ++ Frame.stream (before ++ [f])) with kernel := k }) rfl hrest
          fun pre g post hsplit =>
            hhandled pre g (post ++ [f]) (by rw [hsplit, List.append_assoc]; rfl)
              (List.append_ne_nil_of_right_ne_nil _ (List.cons_ne_nil _ _))
        refine ⟨n + (before.length + 1), ?_⟩
        rw [readData_add, hrun, hlast]
        exact List.Sublist.refl _

/-- Behind junk that is skipped, an FFT frame without a whole header ends the thread of
    `RadarTcpClient` before the next frame. -/
theorem not_raisesAll_short :
    Skippable .unlimited (List.replicate 22 0) ∧
      ¬ RaisesAll .unlimited (RadarTcpClient.throws .unlimited ⟨.connected, 0⟩) bytewise.schedule
        (List.replicate 22 0 ++ Frame.stream [⟨30, [1, 2], by decide⟩, ⟨1, [], by decide⟩])
        [⟨30, [1, 2], by decide⟩, ⟨1, [], by decide⟩] := by
  have hskip : Skippable .unlimited (List.replicate 22 0) := by
    have hblock : List.replicate 22 0 = block (List.replicate 16 0) 0 0 0 ++ [] := by decide
    rw [hblock]
    exact .block 0 0 rfl (Nat.zero_le _) .nil
  refine ⟨hskip, fun hall => ?_⟩
  have hhandled := ((raisesAll_iff .unlimited (RadarTcpClient.throws .unlimited ⟨.connected, 0⟩)
    bytewise (List.replicate 22 0) [⟨30, [1, 2], by decide⟩, ⟨1, [], by decide⟩]
    (by decide)).mp hall).resolve_left (List.cons_ne_nil _ _)
  have hthrows := hhandled.2 [] ⟨30, [1, 2], by decide⟩ [⟨1, [], by decide⟩] rfl
    (List.cons_ne_nil _ _)
  exact absurd hthrows (by decide)

/-- One byte of junk, and no frame is ever raised, even if no subscriber throws. -/
theorem junk_byte_loses_frames :
    ¬ ∀ (ρ : Runtime) (σ : Splitting) (junk : Bytes) (frames : List Frame),
      ¬ validSignature <:+: junk →
      RaisesAll ρ (fun _ _ => false) σ.schedule (junk ++ Frame.stream frames) frames := by
  intro h
  have hall := h .unlimited bytewise [7] [⟨30, [], by decide⟩] (by decide)
  have hskip : ¬ Skippable .unlimited [7] := fun hskip => absurd hskip.dvd_length (by decide)
  have hjunk : ¬ validSignature <:+: [7] := by decide
  have hframes : [(⟨30, [], by decide⟩ : Frame)] ≠ [] := List.cons_ne_nil _ _
  have hkernel : (start ([7] ++ Frame.stream [⟨30, [], by decide⟩])).kernel.unread =
      [7] ++ Frame.stream [⟨30, [], by decide⟩] := rfl
  obtain ⟨n, hweight⟩ := readData_not_skippable bytewise hframes hskip rfl rfl hkernel hjunk
  exact not_raisesAll_of_weight hweight hall

end TcpClientConnection

end Navtech.IASDK
