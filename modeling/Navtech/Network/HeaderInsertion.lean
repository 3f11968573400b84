/-
  A typed header appended to a message that holds a received frame.

  A frame comes into a `Message` through a constructor or through `replace`. Neither touches
  the flag that tells `append` of a payload to move: a constructed message has it down, and
  another one keeps it from what it was used for. With the flag down the header takes the
  place of the first bytes of the payload, and the message grows by zeros at its end instead.
  So the payload is kept exactly if the flag is up, or there is nothing to see of the loss
  (`inserted_iff`); and the length field holds the new length as long as it has the bits.
-/
import Navtech.Network.Message

namespace Navtech.Network

open ByteOrder Buffer PackedRecord Navtech.Utility

namespace Message

/-- The body of `replace(Const_iterator, std::size_t)`. `src` is the memory from `src_start` on. -/
def replaceRange (m : Message) (src : Bytes) (srcSize : Nat) : Message :=
  { m with data := src.take srcSize }

/-- `Message(Const_iterator, std::size_t)`. -/
def ofRange (src : Bytes) (messageSize : Nat) : Message :=
  (⟨false, []⟩ : Message).replaceRange src messageSize

end Message

/-! ## Ways into a message -/

/-- A constructor or a form of `replace`, the latter on a message that may have been used. A
    range is followed in memory by other bytes. -/
inductive Load where
  | constructed
  | constructedRange (after : Bytes)
  | replaced (m : Message)
  | replacedRange (m : Message) (after : Bytes)
deriving DecidableEq, Repr

namespace Load

def apply (f : Bytes) : Load → Message
  | constructed => .ofBuffer f
  | constructedRange after => .ofRange (f ++ after) f.length
  | replaced m => m.replace f
  | replacedRange m after => m.replaceRange (f ++ after) f.length

/-- `has_protobuf` after the call. -/
def hasProtobuf : Load → Bool
  | constructed | constructedRange _ => false
  | replaced m | replacedRange m _ => m.hasProtobuf

theorem apply_eq (f : Bytes) (l : Load) : l.apply f = ⟨l.hasProtobuf, f⟩ := by
  cases l <;> simp [apply, hasProtobuf, Message.ofBuffer, Message.ofRange, Message.replace,
    Message.replaceRange]

end Load

/-! ## Frames -/

/-- The frame has as many bytes as its header announces. -/
def Complete (f : Bytes) : Prop :=
  f.length = Message.headerSize + (Message.ofBuffer f).payloadSize

instance (f : Bytes) : Decidable (Complete f) := inferInstanceAs (Decidable (_ = _))

/-- Signature, version and type; the length field; the payload. -/
theorem Complete.eq {f : Bytes} (h : Complete f) :
    f = f.take 18 ++ beBytes 4 (f.drop Message.headerSize).length ++ f.drop Message.headerSize := by
  have hlen : (f.drop Message.headerSize).length = (Message.ofBuffer f).payloadSize := by
    rw [List.length_drop, h]
    exact Nat.add_sub_cancel_left _ _
  have hfield : (slice f 18 4).length = 4 := by
    have hlong : 22 ≤ f.length := by
      rw [h]
      exact Nat.le_add_right _ _
    exact length_slice hlong
  have hsize : (Message.ofBuffer f).payloadSize = ofBEBytes (slice f 18 4) := by
    have hne : f.isEmpty = false := by
      rw [List.isEmpty_eq_false_iff]
      intro hnil
      rw [hnil] at hfield
      exact absurd hfield (by decide)
    have hlt : ofLEBytes (slice f 18 4) < 2 ^ 32 := by
      have hbound := ofLEBytes_lt (slice f 18 4)
      rwa [hfield] at hbound
    have hload : (UInt32.ofNat (ofLEBytes (slice f 18 4))).toNat = ofLEBytes (slice f 18 4) :=
      UInt32.toNat_ofNat_of_lt' hlt
    have hswap := byteSwap_ofLEBytes (slice f 18 4)
    rw [hfield] at hswap
    unfold Message.payloadSize Message.ofBuffer
    simp only [hne, Bool.false_eq_true, if_false, toNat_ntohl, load]
    rw [hload, hswap, ofBEBytes]
  have hbytes := beBytes_ofBEBytes (slice f 18 4)
  rw [hfield] at hbytes
  have hrest : f.drop 18 = slice f 18 4 ++ f.drop Message.headerSize := by
    have hsplit := List.take_append_drop 4 (f.drop 18)
    rw [List.drop_drop] at hsplit
    exact hsplit.symm
  rw [hlen, hsize, hbytes, List.append_assoc, ← hrest, List.take_append_drop]

/-- What is left of the frame after the header has been inserted. -/
structure Inserted (f header : Bytes) (m : Message) : Prop where
  payload : m.data.drop Message.headerSize = header ++ f.drop Message.headerSize
  length : m.payloadSize = (header ++ f.drop Message.headerSize).length
  /-- Signature, version and type. -/
  start : m.data.take 18 = f.take 18

/-! ## What is lost -/

/-- Moved to the left and filled up with zeros, only a payload of zeros is what it was. -/
theorem shifted_eq_iff (payload : Bytes) {n : Nat} (hn : 0 < n) :
    (payload ++ List.replicate n 0).drop n = payload ↔ ∀ b ∈ payload, b = 0 := by
  constructor
  · intro h
    -- an element is the one `n` places behind it, which is zero where the payload has ended
    have hzero : ∀ k i, payload.length - i ≤ k → i < payload.length → payload[i]? = some 0 := by
      intro k
      induction k with
      | zero => exact fun i hk hi => absurd hk (by omega)
      | succ k ih =>
        intro i hk hi
        have hshift : payload[i]? = (payload ++ List.replicate n 0)[n + i]? := by
          conv => lhs; rw [← h]
          rw [List.getElem?_drop]
        rw [hshift]
        by_cases hlast : n + i < payload.length
        · rw [List.getElem?_append_left hlast]
          exact ih (n + i) (by omega) hlast
        · rw [List.getElem?_append_right (by omega), List.getElem?_replicate]
          exact if_pos (by omega)
    intro b hb
    obtain ⟨i, hi, rfl⟩ := List.mem_iff_getElem.mp hb
    have hget := hzero payload.length i (Nat.sub_le _ _) hi
    rw [List.getElem?_eq_getElem hi] at hget
    exact Option.some.inj hget
  · intro h
    have hall : payload = List.replicate payload.length 0 := List.eq_replicate_of_mem h
    rw [hall, List.replicate_append_replicate, List.drop_replicate]
    simp

/-- The length field, the payload and what stands before them, of a message in three parts. -/
theorem inserted_parts_iff {f header start payload : Bytes} {p : Bool} {n : Nat}
    (hstart : start.length = 18) (hf : f.take 18 = start) :
    Inserted f header ⟨p, start ++ beBytes 4 n ++ payload⟩ ↔
      payload = header ++ f.drop Message.headerSize ∧
        n % 2 ^ 32 = (header ++ f.drop Message.headerSize).length := by
  have hdrop : (start ++ beBytes 4 n ++ payload).drop Message.headerSize = payload :=
    List.drop_left' (by simp [hstart, Message.headerSize])
  have htake : (start ++ beBytes 4 n ++ payload).take 18 = start := by
    rw [List.append_assoc]
    exact List.take_left' hstart
  have hsize := Message.payloadSize_start p hstart n payload
  constructor
  · intro h
    exact ⟨hdrop.symm.trans h.payload, hsize.symm.trans h.length⟩
  · intro h
    exact ⟨hdrop.trans h.1, hsize.trans h.2, htake.trans hf.symm⟩

/-- **Nothing is lost**, exactly if the flag is up, the header is empty or the payload is all
    zeros; and the length field is right, exactly if 32 bits are enough for the new length. -/
theorem inserted_iff (l : Load) {f : Bytes} (hf : Complete f) (header : Bytes) :
    Inserted f header ((l.apply f).appendHeader header) ↔
      (l.hasProtobuf = true ∨ header = [] ∨ ∀ b ∈ f.drop Message.headerSize, b = 0) ∧
        (header ++ f.drop Message.headerSize).length < 2 ^ 32 := by
  have hlong : 18 ≤ f.length := by
    rw [hf, Message.headerSize]
    omega
  have hstart : (f.take 18).length = 18 := List.length_take_of_le hlong
  have hlt : (f.drop Message.headerSize).length < 2 ^ 32 := by
    have hsize : (Message.ofBuffer f).payloadSize < 2 ^ 32 := by
      unfold Message.payloadSize
      split
      · decide
      · exact UInt32.toNat_lt _
    rw [List.length_drop, hf]
    omega
  have hmod (n : Nat) : n % 2 ^ 32 = n ↔ n < 2 ^ 32 := by
    rw [Nat.mod_eq_iff_lt (by decide)]
  rw [Load.apply_eq]
  generalize hpayload : f.drop Message.headerSize = payload at hlt ⊢
  have hsplit : f = f.take 18 ++ beBytes 4 payload.length ++ payload := hpayload ▸ hf.eq
  generalize l.hasProtobuf = flag
  conv => lhs; rw [show (⟨flag, f⟩ : Message) =
    ⟨flag, f.take 18 ++ beBytes 4 payload.length ++ payload⟩ from congrArg _ hsplit]
  cases flag with
  | true =>
    rw [Message.appendHeader_start hstart _ _ hlt, inserted_parts_iff hstart rfl, hpayload, hmod]
    exact ⟨fun h => ⟨.inl rfl, h.2⟩, fun h => ⟨rfl, h.2⟩⟩
  | false =>
    rw [Message.appendHeader_start_over hstart, inserted_parts_iff hstart rfl, hpayload,
      List.append_cancel_left_eq, List.length_append, hmod]
    refine and_congr_left fun _ => ?_
    by_cases hnil : header = []
    · subst hnil
      simp
    · rw [shifted_eq_iff payload (List.length_pos_iff.mpr hnil)]
      simp [hnil]

/-- A frame of three bytes in a message that has sent a protocol buffer before. -/
theorem inserted_after_protobuf :
    Inserted (0 :: List.replicate 17 7 ++ [0, 0, 0, 3, 1, 2, 3]) [9, 9]
      ((Load.apply (0 :: List.replicate 17 7 ++ [0, 0, 0, 3, 1, 2, 3])
        (.replaced ⟨true, []⟩)).appendHeader [9, 9]) :=
  (inserted_iff (.replaced ⟨true, []⟩) (by decide) [9, 9]).mpr ⟨.inl rfl, by decide⟩

/-- The same frame in a new message: the payload is cut to its last byte. -/
theorem not_forall_inserted :
    ¬ ∀ (l : Load) (f : Bytes), Complete f → ∀ header : Bytes,
      Inserted f header ((l.apply f).appendHeader header) := by
  intro h
  have hlost := (h .constructed (0 :: List.replicate 17 7 ++ [0, 0, 0, 3, 1, 2, 3]) (by decide)
    [9, 9]).payload
  revert hlost
  decide

end Navtech.Network
