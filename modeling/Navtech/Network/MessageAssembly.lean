/-
  Building a message from a default-constructed `Message`.

  A `Call` is one member call of a user that builds a message: `type`, a payload buffer in
  any of the four forms through `append` or `operator<<`, or a typed header through either.
  `build` runs the calls. The invariant (`build_eq`) is that after every call the vector is a
  well-formed message whose body is the header followed by the payloads in call order, and
  that the flag says whether a payload is there; a header that comes late is moved in front.

  The flag is what the late header relies on: without it the header would overwrite the
  payload, so the invariant has to speak of both.
-/
import Mathlib.Data.List.Induction
import Navtech.Network.Message

namespace Navtech.Network

open ByteOrder

/-- The static type under which a payload buffer is handed to a call. -/
inductive PayloadForm where
  | vector | vectorMoved | string | stringMoved
deriving DecidableEq, Repr

/-- A call of a setter, or of one of the functions that append or insert. -/
inductive Call where
  | type (t : MessageType)
  | append (form : PayloadForm) (payload : Bytes)
  | insert (form : PayloadForm) (payload : Bytes)
  | appendHeader (header : Bytes)
  | insertHeader (header : Bytes)
deriving DecidableEq, Repr

namespace Call

/-- The bytes of the typed header a call brings. -/
def header : Call → Bytes
  | appendHeader h => h
  | insertHeader h => h
  | _ => []

/-- The payload bytes a call brings. -/
def payload : Call → Bytes
  | append _ b => b
  | insert _ b => b
  | _ => []

/-- The message type after a call, given the type before it. -/
def retype (t : MessageType) : Call → MessageType
  | type t' => t'
  | _ => t

/-- It brings a message header. -/
def isHeader : Call → Bool
  | appendHeader _ => true
  | insertHeader _ => true
  | _ => false

/-- It brings a payload. -/
def isPayload : Call → Bool
  | append _ _ => true
  | insert _ _ => true
  | _ => false

/-- The member function a call runs. -/
def apply (m : Message) : Call → Message
  | type t => m.setType t
  | append .vector b => m.append b
  | append .vectorMoved b => m.appendMove b
  | append .string b => m.appendString b
  | append .stringMoved b => m.appendStringMove b
  | insert .vector b => m.insert b
  | insert .vectorMoved b => m.insertMove b
  | insert .string b => m.insertString b
  | insert .stringMoved b => m.insertStringMove b
  | appendHeader h => m.appendHeader h
  | insertHeader h => m.insertHeader h

end Call

/-- The message after the calls, from a default-constructed one. -/
def build (calls : List Call) : Message := calls.foldl Call.apply Message.default

/-- The last type set, or 0. -/
def lastType (calls : List Call) : MessageType := calls.foldl Call.retype 0

/-- What the calls bring of a header. -/
def headerOf (calls : List Call) : Bytes := calls.flatMap Call.header

/-- What they bring of a payload, in order. -/
def payloadOf (calls : List Call) : Bytes := calls.flatMap Call.payload

theorem build_snoc (calls : List Call) (c : Call) :
    build (calls ++ [c]) = Call.apply (build calls) c := by
  rw [build, List.foldl_append]
  rfl

theorem lastType_snoc (calls : List Call) (c : Call) :
    lastType (calls ++ [c]) = c.retype (lastType calls) := by
  rw [lastType, List.foldl_append]
  rfl

theorem headerOf_snoc (calls : List Call) (c : Call) :
    headerOf (calls ++ [c]) = headerOf calls ++ c.header := by
  simp [headerOf]

theorem payloadOf_snoc (calls : List Call) (c : Call) :
    payloadOf (calls ++ [c]) = payloadOf calls ++ c.payload := by
  simp [payloadOf]

/-- Every payload call, in any form, runs the shared body of the overloads. -/
theorem apply_payload (m : Message) (form : PayloadForm) (b : Bytes) :
    Call.apply m (.append form b) = m.appendBytes b ∧
      Call.apply m (.insert form b) = m.appendBytes b := by
  cases form <;> exact ⟨rfl, rfl⟩

theorem headerOf_eq_nil {calls : List Call} (h : calls.countP Call.isHeader = 0) :
    headerOf calls = [] := by
  rw [headerOf, List.flatMap_eq_nil_iff]
  intro c hc
  have hn := List.countP_eq_zero.mp h c hc
  cases c <;> simp_all [Call.header, Call.isHeader]

theorem payloadOf_eq_nil {calls : List Call} (h : calls.any Call.isPayload = false) :
    payloadOf calls = [] := by
  rw [payloadOf, List.flatMap_eq_nil_iff]
  intro c hc
  have hn := List.any_eq_false.mp h c hc
  cases c <;> simp_all [Call.payload, Call.isPayload]

/-- A header call on a message that has no header yet. -/
theorem apply_header {calls : List Call} (h : Bytes)
    (hb : build calls = ⟨calls.any Call.isPayload, frameBytes (lastType calls) (payloadOf calls)⟩)
    (hlen : (payloadOf calls).length < 2 ^ 32) :
    (build calls).appendHeader h =
      ⟨calls.any Call.isPayload, frameBytes (lastType calls) (h ++ payloadOf calls)⟩ := by
  rw [hb]
  cases hp : calls.any Call.isPayload with
  | true => exact Message.appendHeader_of_payload _ _ h hlen
  | false =>
    rw [payloadOf_eq_nil hp, List.append_nil]
    exact Message.appendHeader_of_empty _ h

/-- The invariant: a well-formed message, the header before the payloads, and the flag. -/
theorem build_eq (calls : List Call) (hone : calls.countP Call.isHeader ≤ 1)
    (hlen : (headerOf calls ++ payloadOf calls).length < 2 ^ 32) :
    build calls = ⟨calls.any Call.isPayload,
      frameBytes (lastType calls) (headerOf calls ++ payloadOf calls)⟩ := by
  induction calls using List.reverseRecOn with
  | nil => exact Message.default_eq
  | append_singleton calls c ih =>
    rw [List.countP_append] at hone
    rw [headerOf_snoc, payloadOf_snoc] at hlen
    simp only [List.length_append] at hlen ih
    have hb := ih (by omega) (by omega)
    have hpay : (payloadOf calls).length < 2 ^ 32 := by omega
    -- a header call is the first one: nothing before it brought a header
    have hfirst : c.isHeader = true → headerOf calls = [] := fun hc => by
      refine headerOf_eq_nil ?_
      simp only [List.countP_cons, List.countP_nil, hc, if_true] at hone
      omega
    rw [build_snoc, headerOf_snoc, payloadOf_snoc, lastType_snoc, List.any_append]
    cases c with
    | type t =>
      rw [hb]
      simp [Call.apply, Call.header, Call.payload, Call.isPayload, Call.retype]
    | append form b =>
      rw [(apply_payload _ form b).1, hb, Message.appendBytes_frameBytes]
      simp [Call.header, Call.payload, Call.isPayload, Call.retype]
    | insert form b =>
      rw [(apply_payload _ form b).2, hb, Message.appendBytes_frameBytes]
      simp [Call.header, Call.payload, Call.isPayload, Call.retype]
    | appendHeader h =>
      rw [hfirst rfl, List.nil_append] at hb ⊢
      rw [Call.apply, apply_header h hb hpay]
      simp [Call.header, Call.payload, Call.isPayload, Call.retype]
    | insertHeader h =>
      rw [hfirst rfl, List.nil_append] at hb ⊢
      rw [Call.apply, Message.insertHeader, apply_header h hb hpay]
      simp [Call.header, Call.payload, Call.isPayload, Call.retype]

/-- Calls made so far bring no more headers and no more bytes than all calls. -/
theorem done_le {done calls : List Call} (hd : done <+: calls) :
    done.countP Call.isHeader ≤ calls.countP Call.isHeader ∧
      (headerOf done ++ payloadOf done).length ≤ (headerOf calls ++ payloadOf calls).length := by
  obtain ⟨rest, rfl⟩ := hd
  simp only [List.countP_append, headerOf, payloadOf, List.flatMap_append, List.length_append]
  omega

/-- **Order-independent assembly.** After every call of a sequence with at most one typed
    header, the size is the header size plus the payload size, and `relinquish()` hands out
    signature, version, last type, length, header and payloads in that order, wherever in
    the sequence the header was appended. -/
theorem build_assembles (calls : List Call) (hone : calls.countP Call.isHeader ≤ 1)
    (hlen : (headerOf calls ++ payloadOf calls).length < 2 ^ 32)
    (done : List Call) (hd : done <+: calls) :
    (build done).size = Message.headerSize + (build done).payloadSize ∧
      (build done).relinquish = validSignature ++ [1] ++ [lastType done] ++
        beBytes 4 (headerOf done ++ payloadOf done).length ++ headerOf done ++ payloadOf done := by
  obtain ⟨hone', hlen'⟩ := done_le hd
  have hlt : (headerOf done ++ payloadOf done).length < 2 ^ 32 := lt_of_le_of_lt hlen' hlen
  rw [build_eq done (hone'.trans hone) hlt]
  constructor
  · rw [Message.payloadSize_frameBytes, Nat.mod_eq_of_lt hlt, Message.size, length_frameBytes]
  · rw [Message.relinquish_frameBytes, frameBytes, headerBytes, version]
    simp

/-- A payload, the type, a header after it, and a second payload. -/
theorem build_assembles_late_header :
    (build [.append .vector [9, 9], .type 30, .appendHeader [1, 2, 3], .insert .string [8]]).relinquish =
      validSignature ++ [1] ++ [30] ++ beBytes 4 6 ++ [1, 2, 3] ++ [9, 9, 8] :=
  (build_assembles [.append .vector [9, 9], .type 30, .appendHeader [1, 2, 3], .insert .string [8]]
    (by decide) (by decide) _ (List.prefix_refl _)).2

end Navtech.Network
