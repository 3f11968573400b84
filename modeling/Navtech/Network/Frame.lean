/-
  Frames and streams: what the receiver is for, said without the receiver.

  A `Frame` is a message of any type with a payload below the limit; the bound is a field, so
  every value is a frame the protocol allows. `Deframes s fs t` says that `fs` are the frames
  of the stream `s` for a receiver that looks for the signature byte by byte, skips headers
  that announce nothing acceptable, and stops where the stream is cut inside a frame, with `t`
  left. It is an inductive relation over streams; `deframes_total` says that every stream has
  frames in this sense, and `deframes_segments` that a stream of frames with junk in between
  has exactly those frames.

  `isValid_iff` is the bridge to the code: the 22-byte vectors that `Message::is_valid`
  accepts are the headers of such frames.
-/
import Navtech.Network.Message

namespace Navtech.Network

open ByteOrder Buffer

structure Frame where
  type : MessageType
  payload : Bytes
  small : payload.length < largestPayload

namespace Frame

def bytes (f : Frame) : Bytes := frameBytes f.type f.payload

theorem bytes_eq (f : Frame) : f.bytes = headerBytes f.type f.payload.length ++ f.payload := rfl

@[simp] theorem length_bytes (f : Frame) :
    f.bytes.length = Message.headerSize + f.payload.length := length_frameBytes _ _

theorem signature_prefix (f : Frame) : validSignature <+: f.bytes := by
  refine ⟨[version, f.type] ++ beBytes 4 f.payload.length ++ f.payload, ?_⟩
  rw [bytes_eq, headerBytes]
  simp

/-- The frames one after the other. -/
def stream (fs : List Frame) : Bytes := fs.flatMap bytes

theorem stream_cons (f : Frame) (fs : List Frame) : stream (f :: fs) = f.bytes ++ stream fs := rfl

end Frame

/-! ## Headers -/

/-- A 22-byte header that announces an acceptable frame. -/
def Acceptable (header : Bytes) : Prop :=
  ∃ t n, n < largestPayload ∧ header = headerBytes t n

/-- A header-sized vector with the signature and the version is a header. -/
theorem eq_headerBytes {data : Bytes} (hlen : data.length = Message.headerSize)
    (hsig : slice data 0 16 = validSignature) (hver : data.getD 16 0 = version) :
    ∃ t n, n < 2 ^ 32 ∧ data = headerBytes t n := by
  have hsplit : validSignature ++ data.drop 16 = data := by
    rw [← hsig]
    exact List.take_append_drop 16 data
  have hdrop : (data.drop 16).length = 6 := by
    rw [List.length_drop, hlen]
    rfl
  obtain ⟨v, l, hv⟩ := List.exists_cons_of_length_eq_add_one hdrop
  have hl : l.length = 5 := by
    rw [hv] at hdrop
    simpa using hdrop
  obtain ⟨t, rest, rfl⟩ := List.exists_cons_of_length_eq_add_one hl
  have hrest : rest.length = 4 := by simpa using hl
  have hvv : v = version := by
    have hget : (validSignature ++ v :: t :: rest).getD 16 0 = v := rfl
    rwa [← hsplit, hv, hget] at hver
  refine ⟨t, ofBEBytes rest, ?_, ?_⟩
  · have h := ofBEBytes_lt rest
    rw [hrest] at h
    exact h
  · have hbe := beBytes_ofBEBytes rest
    rw [hrest] at hbe
    rw [headerBytes, hbe, ← hsplit, hv, hvv]
    simp

theorem isValid_headerBytes (p : Bool) (t : MessageType) {n : Nat} (hn : n < 2 ^ 32) :
    (⟨p, headerBytes t n⟩ : Message).isValid = decide (n < largestPayload) := by
  have hsize := Message.payloadSize_headerBytes p t n []
  rw [List.append_nil, Nat.mod_eq_of_lt hn] at hsize
  have hne : (headerBytes t n).isEmpty = false := rfl
  have hsig : (⟨p, headerBytes t n⟩ : Message).isSignatureValid = true := rfl
  have hver : (⟨p, headerBytes t n⟩ : Message).isVersionValid = true := rfl
  have htype : decide ((⟨p, headerBytes t n⟩ : Message).type.toNat ≤ largestValidMessage) = true :=
    decide_eq_true (Nat.le_of_lt_succ (UInt8.toNat_lt _))
  rw [Message.isValid]
  simp only [hne, hsig, hver, htype, hsize, Bool.false_eq_true, if_false, Bool.true_and]

/-- `is_valid` on a header-sized vector. -/
theorem isValid_iff (p : Bool) {data : Bytes} (hlen : data.length = Message.headerSize) :
    (⟨p, data⟩ : Message).isValid = true ↔ Acceptable data := by
  constructor
  · intro h
    have hsig : slice data 0 16 = validSignature := by
      have h' : (⟨p, data⟩ : Message).isSignatureValid = true := by
        unfold Message.isValid at h
        split at h
        · cases h
        · simp only [Bool.and_eq_true] at h
          exact h.1.1.1
      simpa [Message.isSignatureValid] using h'
    have hver : data.getD 16 0 = version := by
      have h' : (⟨p, data⟩ : Message).isVersionValid = true := by
        unfold Message.isValid at h
        split at h
        · cases h
        · simp only [Bool.and_eq_true] at h
          exact h.1.1.2
      simpa [Message.isVersionValid] using h'
    obtain ⟨t, n, hn, rfl⟩ := eq_headerBytes hlen hsig hver
    rw [isValid_headerBytes p t hn] at h
    exact ⟨t, n, of_decide_eq_true h, rfl⟩
  · intro h
    obtain ⟨t, n, hn, rfl⟩ := h
    have hlt : n < 2 ^ 32 := by
      unfold largestPayload at hn
      omega
    rw [isValid_headerBytes p t hlt]
    exact decide_eq_true hn

/-! ## The frames of a stream -/

/-- A stream in which no frame can be completed any more: nothing is left, or it is cut
    inside a header, or inside the payload of an acceptable one. -/
inductive Cut : Bytes → Prop where
  | nil : Cut []
  | header {s : Bytes} : validSignature <+: s → s.length < Message.headerSize → Cut s
  | payload {t : MessageType} {n : Nat} {rest : Bytes} :
      n < largestPayload → rest.length < n → Cut (headerBytes t n ++ rest)

/-- A stream cut inside a frame starts with the signature. -/
theorem Cut.signature_prefix {s : Bytes} (h : Cut s) (hne : s ≠ []) : validSignature <+: s := by
  cases h with
  | nil => exact absurd rfl hne
  | header hsig _ => exact hsig
  | payload _ _ =>
    rw [headerBytes, List.append_assoc, List.append_assoc]
    exact List.prefix_append _ _

/-- The frames of a stream and what is left of it: a frame is taken whole, a byte where no
    signature starts is skipped, a header that is not acceptable is skipped whole. -/
inductive Deframes : Bytes → List Frame → Bytes → Prop where
  | cut {s : Bytes} : Cut s → Deframes s [] s
  | frame (f : Frame) {rest : Bytes} {fs : List Frame} {t : Bytes} :
      Deframes rest fs t → Deframes (f.bytes ++ rest) (f :: fs) t
  | skip {b : UInt8} {rest : Bytes} {fs : List Frame} {t : Bytes} :
      ¬ validSignature <+: b :: rest → Deframes rest fs t → Deframes (b :: rest) fs t
  | reject {header rest : Bytes} {fs : List Frame} {t : Bytes} :
      header.length = Message.headerSize → validSignature <+: header → ¬ Acceptable header →
      Deframes rest fs t → Deframes (header ++ rest) fs t

/-- What is left of a stream is cut. -/
theorem Deframes.cut_rest {s : Bytes} {fs : List Frame} {t : Bytes} (h : Deframes s fs t) :
    Cut t := by
  induction h with
  | cut hcut => exact hcut
  | frame _ _ ih => exact ih
  | skip _ _ ih => exact ih
  | reject _ _ _ _ ih => exact ih

/-- A stream shorter than a signature has no frames, and nothing of it is left. -/
theorem Deframes.eq_nil {s : Bytes} {fs : List Frame} {t : Bytes} (h : Deframes s fs t)
    (hs : s.length < validSignature.length) : fs = [] ∧ t = [] := by
  have hsize : validSignature.length ≤ Message.headerSize := by decide
  induction h with
  | cut hcut =>
    cases hcut with
    | nil => exact ⟨rfl, rfl⟩
    | header hsig _ => exact absurd hsig.length_le (by omega)
    | payload _ _ =>
      rw [List.length_append, length_headerBytes] at hs
      omega
  | frame f _ _ =>
    rw [List.length_append, Frame.length_bytes] at hs
    omega
  | skip _ _ ih =>
    rw [List.length_cons] at hs
    exact ih (by omega)
  | reject hl _ _ _ _ =>
    rw [List.length_append] at hs
    omega

/-- Every stream has frames. The induction is on its length: each case but the cuts takes at
    least one byte. -/
theorem deframes_total (s : Bytes) : ∃ fs t, Deframes s fs t := by
  induction hn : s.length using Nat.strong_induction_on generalizing s with
  | _ n ih =>
    cases s with
    | nil => exact ⟨[], _, .cut .nil⟩
    | cons b rest =>
      by_cases hsig : validSignature <+: b :: rest
      · by_cases hlen : (b :: rest).length < Message.headerSize
        · exact ⟨[], _, .cut (.header hsig hlen)⟩
        · -- a whole header is there
          have hsplit := List.take_append_drop Message.headerSize (b :: rest)
          have htake : ((b :: rest).take Message.headerSize).length = Message.headerSize := by
            rw [List.length_take]
            omega
          have hdrop : ((b :: rest).drop Message.headerSize).length < n := by
            rw [List.length_drop, ← hn, List.length_cons]
            unfold Message.headerSize
            omega
          by_cases hacc : Acceptable ((b :: rest).take Message.headerSize)
          · obtain ⟨t, m, hm, hhdr⟩ := hacc
            rw [hhdr] at hsplit
            by_cases hcut : ((b :: rest).drop Message.headerSize).length < m
            · rw [← hsplit]
              exact ⟨[], _, .cut (.payload hm hcut)⟩
            · have hpl : (((b :: rest).drop Message.headerSize).take m).length = m := by
                rw [List.length_take]
                omega
              obtain ⟨fs, t', hfs⟩ := ih _ (by
                rw [List.length_drop]
                omega) (((b :: rest).drop Message.headerSize).drop m) rfl
              let f : Frame :=
                ⟨t, ((b :: rest).drop Message.headerSize).take m, by rw [hpl]; exact hm⟩
              have hf : f.bytes ++ ((b :: rest).drop Message.headerSize).drop m = b :: rest := by
                show headerBytes t (((b :: rest).drop Message.headerSize).take m).length ++
                  ((b :: rest).drop Message.headerSize).take m ++ _ = _
                rw [hpl, List.append_assoc, List.take_append_drop, hsplit]
              exact ⟨f :: fs, t', hf ▸ Deframes.frame f hfs⟩
          · obtain ⟨fs, t', hfs⟩ := ih _ hdrop _ rfl
            have hpre : validSignature <+: (b :: rest).take Message.headerSize := by
              rw [List.prefix_take_iff]
              exact ⟨hsig, by decide⟩
            have h := Deframes.reject htake hpre hacc hfs
            rw [hsplit] at h
            exact ⟨fs, t', h⟩
      · obtain ⟨fs, t', hfs⟩ := ih rest.length (by rw [← hn, List.length_cons]; omega) rest rfl
        exact ⟨fs, t', .skip hsig hfs⟩

/-! ## Frames with junk between them -/

/-- `g₀ f₁ g₁ … f_k g_k`, given as `g₀` and the list of `(f_i, g_i)`. -/
def segments (junk : Bytes) : List (Frame × Bytes) → Bytes
  | [] => junk
  | (f, g) :: rest => junk ++ (f.bytes ++ segments g rest)

/-- Junk is skipped up to a stream that starts with the signature's first byte. -/
theorem deframes_junk {junk s : Bytes} {fs : List Frame} {t : Bytes}
    (hj : ¬ validSignature <:+: junk)
    (hs : s ≠ [] → s.head? = some Signature.marker.head) (h : Deframes s fs t) :
    Deframes (junk ++ s) fs t := by
  induction junk with
  | nil => exact h
  | cons b junk ih =>
    have hj' : ¬ validSignature <:+: junk :=
      fun hi => hj (hi.trans (List.suffix_cons b junk).isInfix)
    have hmiss : ¬ validSignature <+: b :: junk ++ s := by
      have h0 := Signature.marker.not_match_in_junk hj hs (i := 0) (by simp)
      simpa [validSignature] using h0
    exact .skip hmiss (ih hj')

/-- **The frames of a stream of frames and junk** are its frames, in order, once each. -/
theorem deframes_segments (junk : Bytes) (rest : List (Frame × Bytes))
    (hj : ¬ validSignature <:+: junk) (hr : ∀ p ∈ rest, ¬ validSignature <:+: p.2) :
    Deframes (segments junk rest) (rest.map Prod.fst) [] := by
  induction rest generalizing junk with
  | nil =>
    have h := deframes_junk (s := []) hj (fun h => absurd rfl h) (.cut .nil)
    rw [List.append_nil] at h
    exact h
  | cons p rest ih =>
    obtain ⟨f, g⟩ := p
    have htail := ih g (hr (f, g) List.mem_cons_self)
      (fun q hq => hr q (List.mem_cons_of_mem _ hq))
    refine deframes_junk hj (fun _ => rfl) (.frame f htail)

end Navtech.Network
