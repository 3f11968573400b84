/-
  `handle_received_message` of `pythonexamples/ReadOneRotationOfFFTData.py`, which reads one message
  from the radar, and decodes the samples of FFT data into `power`. The decoder of
  `ReadOneSingleAzimuthOfFFTData.py` is the same.

  A sample of type 31 is two bytes. The loop takes as many values as there are samples, but sample
  `index` from byte `index`, not from byte `2 * index` (`windows`). So the number of values is
  right, and the values are those of the payload only if the loop comes upon the same bytes there:
  for more than one sample, if all bytes from the second on are one (`windows_eq_iff`).

  The script reads the encoder's size from the configuration message. Without it the bearing is a
  division by zero, which the handler catches, and no sample is decoded
  (`decodesPayload_iff`).
-/
import Navtech.Lib.Buffer
import Navtech.Lib.ByteOrder
import Navtech.Lib.ExceptState
import Navtech.Lib.SignificantBits

namespace Navtech

namespace Python

namespace FftData

open Buffer ByteOrder ExceptState
open SignificantBits (nearest roundHalfEven)

/-! ## Floats -/

/-- The float nearest to `q`: 53 bits. -/
def float (q : ℚ) : ℚ := nearest 53 q

/-- What the script can raise. -/
inductive Exception where
  | timeout
  | zeroDivisionError
  | nameError
deriving DecidableEq, Repr

/-- `int / int`. -/
def divide (p q : Nat) : Except Exception ℚ :=
  if q = 0 then .error .zeroDivisionError else .ok (float (p / q))

/-- `int(p)` of a float that is not negative. -/
def int (p : ℚ) : Nat := ⌊p⌋.toNat

/-! ## The script -/

/-- The globals. What the script does not set before the configuration message is `none` until
    then. `radarSocket` is what is still to come from the radar. -/
structure Globals where
  radarSocket : List UInt8
  data : List UInt8
  messageType : Nat
  payloadSize : Nat
  configRead : Bool
  dataRead : Bool
  encoderSize : Nat
  version : Nat
  power : List Nat
  bearing : ℚ
  timestampWithNanoseconds : String
  bitDepth : Nat
  readFirstFftMessage : Bool
  azimuth : Nat
  startingAzimuth : Nat
  azimuthSamples : Option Nat
  rangeResolution : Option Nat
  rangeBins : Option Nat
deriving DecidableEq, Repr

/-- Before the first call, with what the radar will send. -/
def Globals.initial (radarSocket : List UInt8) : Globals where
  radarSocket := radarSocket
  data := []
  messageType := 0
  payloadSize := 0
  configRead := false
  dataRead := false
  encoderSize := 0
  version := 0
  power := []
  bearing := 0
  timestampWithNanoseconds := ""
  bitDepth := 0
  readFirstFftMessage := false
  azimuth := 0
  startingAzimuth := 0
  azimuthSamples := none
  rangeResolution := none
  rangeBins := none

def signatureLength : Nat := 16

/-- Signature, version, type and length. -/
def headerLength : Nat := signatureLength + 1 + 1 + 4

def checkSignature : List UInt8 :=
  [0x00, 0x01, 0x03, 0x03, 0x07, 0x07, 0x0f, 0x0f, 0x1f, 0x1f, 0x3f, 0x3f, 0x7f, 0x7f, 0xfe, 0xfe]

/-- An exception keeps what was assigned before it. -/
abbrev Script := ExceptT Exception (StateM Globals)

/-- `data += radar_socket.recv(1)`. Where nothing comes any more, the socket's timeout. -/
def recv : Script Unit := do
  let g ← get
  match g.radarSocket with
  | [] => throw .timeout
  | b :: rest => set { g with radarSocket := rest, data := g.data ++ [b] }

/-- `while (len(data) < size)`, with `turns` turns left. -/
def recvLoop : Nat → Script Unit
  | 0 => pure ()
  | turns + 1 => do
    recv
    recvLoop turns

/-- `data = []`, and the loop. -/
def receive (size : Nat) : Script Unit := do
  modify fun g => { g with data := [] }
  recvLoop size

/-- `data[first:last]` as a number. -/
def fromBytesBig (data : List UInt8) (first last : Nat) : Nat :=
  ofBEBytes (slice data first (last - first))

/-- `int.from_bytes(..., byteorder='little')` of a slice. -/
def fromBytesLittle (data : List UInt8) (first last : Nat) : Nat :=
  ofLEBytes (slice data first (last - first))

/-- The message header. -/
def readHeader : Script Unit := do
  receive signatureLength
  if (← get).data = checkSignature then
    receive (headerLength - signatureLength)
    modify fun g => { g with
      version := fromBytesBig g.data 0 1
      messageType := fromBytesBig g.data 1 2
      payloadSize := fromBytesBig g.data 2 6 }

/-- Configuration data from radar. -/
def readConfig : Script Unit := do
  receive (← get).payloadSize
  if (← get).data.length = (← get).payloadSize then
    modify fun g => { g with
      azimuthSamples := some (fromBytesBig g.data 0 2)
      rangeResolution := some (fromBytesBig g.data 2 4)
      rangeBins := some (fromBytesBig g.data 4 6)
      encoderSize := fromBytesBig g.data 6 8
      configRead := true }

/-- `str(number).rjust(width, '0')`. -/
def rjust (width number : Nat) : String :=
  let digits := toString number
  String.ofList (List.replicate (width - digits.length) '0') ++ digits

/-- `strftime` is the local time of a number of seconds. -/
def timestamp (strftime : Nat → String) (seconds splitSeconds : Nat) : String :=
  strftime seconds ++ "." ++
    rjust 5 (roundHalfEven (float ((splitSeconds : ℚ) / 10000))).toNat

/-- The loop over the samples. -/
def appendSamples (value : Nat → Nat) (samples : Nat) : Script Unit :=
  (List.range samples).forM fun index =>
    modify fun g => { g with power := g.power ++ [value index] }

/-- The first FFT data is where the rotation starts. -/
def noteStart : Script Unit := do
  if !(← get).readFirstFftMessage then
    let turn ← divide (← get).azimuth (← get).encoderSize
    match (← get).azimuthSamples with
    | none => throw .nameError
    | some azimuthSamples =>
      modify fun g => { g with
        startingAzimuth := int (float (turn * azimuthSamples))
        readFirstFftMessage := true }

/-- FFT data: type 31 is 16 bit data, type 30 is 8 bit data. -/
def readFft (strftime : Nat → String) : Script Unit := do
  receive (← get).payloadSize
  if (← get).data.length = (← get).payloadSize then
    let data := (← get).data
    modify fun g => { g with azimuth := fromBytesBig data 4 6 }
    let turn ← divide (← get).azimuth (← get).encoderSize
    modify fun g => { g with
      bearing := float (360 * turn)
      timestampWithNanoseconds :=
        timestamp strftime (fromBytesLittle data 6 10) (fromBytesLittle data 10 14) }
    let fftDataBytes := data.drop 14
    if (← get).messageType = 31 then
      appendSamples (fun index => fromBytesBig fftDataBytes index (index + 2))
        (fftDataBytes.length / 2)
      modify fun g => { g with dataRead := true, bitDepth := 16 }
    else
      appendSamples (fun index => fromBytesBig fftDataBytes index (index + 1)) fftDataBytes.length
      modify fun g => { g with dataRead := true, bitDepth := 8 }
    noteStart

/-- Read and process the response message. -/
def handleReceivedMessage (strftime : Nat → String) : Script Unit := do
  modify fun g => { g with messageType := 0 }
  tryCatch readHeader fun _ => pure ()
  if (← get).messageType = 10 then tryCatch readConfig fun _ => pure ()
  else if (← get).messageType = 31 ∨ (← get).messageType = 30 then
    tryCatch (readFft strftime) fun _ => pure ()

/-- The globals behind a call. -/
def Script.after (s : Script Unit) (g : Globals) : Globals := (s.run g).2

/-! ## Runs of a script -/

section Run

variable {β : Type} {g : Globals}

theorem run_bind_divide {p q : Nat} {f : ℚ → Script β} (hq : q ≠ 0) :
    (liftM (divide p q) >>= f).run g = (f (float (p / q))).run g := by
  have hrun : (liftM (divide p q) : Script ℚ).run g = (.ok (float (p / q)), g) := by
    rw [divide, if_neg hq]
    rfl
  exact run_bind_of_ok hrun

theorem run_bind_divide_zero {p : Nat} {f : ℚ → Script β} :
    (liftM (divide p 0) >>= f).run g = (.error .zeroDivisionError, g) := rfl

end Run

/-! ## The bytes of a message -/

theorem run_recv {g : Globals} {b : UInt8} {rest : List UInt8} (h : g.radarSocket = b :: rest) :
    recv.run g = (.ok (), { g with radarSocket := rest, data := g.data ++ [b] }) := by
  rw [recv, run_bind_get, h]
  rfl

theorem run_recvLoop {g : Globals} {bytes rest : List UInt8} (h : g.radarSocket = bytes ++ rest) :
    (recvLoop bytes.length).run g =
      (.ok (), { g with radarSocket := rest, data := g.data ++ bytes }) := by
  induction bytes generalizing g with
  | nil =>
    subst h
    rw [List.append_nil]
    rfl
  | cons b bytes ih =>
    have hrest := ih (g := { g with radarSocket := bytes ++ rest, data := g.data ++ [b] }) rfl
    rw [List.append_assoc] at hrest
    rw [List.length_cons, recvLoop, run_bind_of_ok (run_recv h)]
    exact hrest

theorem run_receive {g : Globals} {size : Nat} {bytes rest : List UInt8}
    (h : g.radarSocket = bytes ++ rest) (hsize : bytes.length = size) :
    (receive size).run g = (.ok (), { g with radarSocket := rest, data := bytes }) := by
  subst hsize
  exact run_recvLoop (g := { g with data := [] }) h

/-- The header of a message. -/
def messageHeader (version type : UInt8) (size : Nat) : List UInt8 :=
  checkSignature ++ (version :: type :: beBytes 4 size)

theorem run_readHeader {g : Globals} {version type : UInt8} {size : Nat} {rest : List UInt8}
    (h : g.radarSocket = messageHeader version type size ++ rest) (hsize : size < 2 ^ 32) :
    readHeader.run g =
      (.ok (), { g with
        radarSocket := rest
        data := version :: type :: beBytes 4 size
        version := version.toNat
        messageType := type.toNat
        payloadSize := size }) := by
  rw [messageHeader, List.append_assoc] at h
  have hsignature := run_receive h (show checkSignature.length = signatureLength from rfl)
  have hlength : (version :: type :: beBytes 4 size).length = headerLength - signatureLength := by
    rw [List.length_cons, List.length_cons, length_beBytes]
    rfl
  have hslice : slice (version :: type :: beBytes 4 size) 2 (6 - 2) = beBytes 4 size :=
    List.take_of_length_le (length_beBytes 4 size).le
  have hpayload : fromBytesBig (version :: type :: beBytes 4 size) 2 6 = size := by
    rw [fromBytesBig, hslice, ofBEBytes_beBytes]
    exact Nat.mod_eq_of_lt hsize
  rw [readHeader, run_bind_of_ok hsignature, run_bind_get, if_pos rfl,
    run_bind_of_ok (run_receive rfl hlength)]
  refine Prod.ext rfl ?_
  change { g with
    radarSocket := rest
    data := version :: type :: beBytes 4 size
    version := fromBytesBig (version :: type :: beBytes 4 size) 0 1
    messageType := fromBytesBig (version :: type :: beBytes 4 size) 1 2
    payloadSize := fromBytesBig (version :: type :: beBytes 4 size) 2 6 } = _
  rw [hpayload]
  rfl

/-! ## What FFT data leaves -/

theorem run_appendSamples (value : Nat → Nat) (samples : Nat) (g : Globals) :
    (appendSamples value samples).run g =
      (.ok (), { g with power := g.power ++ (List.range samples).map value }) := by
  rw [appendSamples]
  generalize List.range samples = indices
  induction indices generalizing g with
  | nil =>
    rw [List.map_nil, List.append_nil]
    rfl
  | cons index indices ih =>
    have hrest := ih { g with power := g.power ++ [value index] }
    rw [List.append_assoc] at hrest
    rw [List.forM_eq_forM, List.forM_cons, run_bind_modify]
    exact hrest

theorem keeps_noteStart : Keeps Globals.power noteStart := by
  refine keeps_get.bind fun g => ?_
  split
  · refine keeps_get.bind fun g => keeps_get.bind fun g' => (keeps_liftM _).bind fun turn => ?_
    refine keeps_get.bind fun g => ?_
    cases g.azimuthSamples with
    | none => exact keeps_throw _
    | some azimuthSamples => exact keeps_modify fun _ => rfl
  · exact keeps_pure ()

section Payload

variable {g : Globals} {payload rest : List UInt8} (hradar : g.radarSocket = payload ++ rest)
  (hsize : payload.length = g.payloadSize)

include hradar hsize

/-- Without the size of the encoder nothing is decoded. -/
theorem power_readFft_of_zero (strftime : Nat → String) (hencoder : g.encoderSize = 0) :
    ((readFft strftime).after g).power = g.power := by
  rw [Script.after, readFft, run_bind_get, run_bind_of_ok (run_receive hradar hsize), run_bind_get,
    run_bind_get, if_pos hsize, run_bind_get, run_bind_modify, run_bind_get, run_bind_get]
  simp only [hencoder]
  rw [run_bind_divide_zero]

theorem power_readFft (strftime : Nat → String) (htype : g.messageType = 31)
    (hencoder : g.encoderSize ≠ 0) :
    ((readFft strftime).after g).power = g.power ++
      (List.range ((payload.drop 14).length / 2)).map fun index =>
        fromBytesBig (payload.drop 14) index (index + 2) := by
  rw [Script.after, readFft, run_bind_get, run_bind_of_ok (run_receive hradar hsize), run_bind_get,
    run_bind_get, if_pos hsize, run_bind_get, run_bind_modify, run_bind_get, run_bind_get,
    run_bind_divide hencoder, run_bind_modify, run_bind_get, if_pos htype,
    run_bind_of_ok (run_appendSamples _ _ _), run_bind_modify]
  exact keeps_noteStart _

end Payload

/-! ## The values of a payload -/

/-- The values that the loop takes from the bytes of the samples. -/
def windows (fft : List UInt8) : List Nat :=
  (List.range (fft.length / 2)).map fun index => fromBytesBig fft index (index + 2)

/-- The samples of the bytes, of two bytes each. -/
def samples (fft : List UInt8) : List Nat :=
  (List.range (fft.length / 2)).map fun i => fromBytesBig fft (2 * i) (2 * i + 2)

/-- The values are one for each two bytes, the value of these, and encode to the bytes. -/
structure Decodes (fft : List UInt8) (values : List Nat) : Prop where
  length : values.length = fft.length / 2
  value : ∀ i < fft.length / 2, values[i]? = some (fromBytesBig fft (2 * i) (2 * i + 2))
  encoded : values.flatMap (beBytes 2) = fft

/-- From the second on the bytes are one. -/
def OneFromSecond (fft : List UInt8) : Prop := ∀ i, 1 ≤ i → i < fft.length → fft[i]? = fft[1]?

section Values

variable {fft : List UInt8}

theorem encoded_samples (heven : fft.length % 2 = 0) :
    (samples fft).flatMap (beBytes 2) = fft := by
  have hprefix (k : Nat) (hk : 2 * k ≤ fft.length) :
      (List.range k).flatMap (fun i => beBytes 2 (fromBytesBig fft (2 * i) (2 * i + 2))) =
        fft.take (2 * k) := by
    induction k with
    | zero => rfl
    | succ k ih =>
      have hlength : (slice fft (2 * k) 2).length = 2 := length_slice hk
      have hbytes : beBytes 2 (fromBytesBig fft (2 * k) (2 * k + 2)) = slice fft (2 * k) 2 := by
        rw [fromBytesBig, Nat.add_sub_cancel_left]
        have h := beBytes_ofBEBytes (slice fft (2 * k) 2)
        rwa [hlength] at h
      rw [List.range_succ, List.flatMap_append, ih (by omega), List.flatMap_singleton, hbytes,
        slice, ← List.take_add]
      rfl
  rw [samples, List.flatMap_map, hprefix _ (by omega)]
  exact List.take_of_length_le (by omega)

theorem samples_eq_nil (heven : fft.length % 2 = 0) : samples fft = [] ↔ fft = [] := by
  refine ⟨fun h => ?_, ?_⟩
  · rw [← encoded_samples heven, h]
    rfl
  · rintro rfl
    rfl

theorem decodes_iff (heven : fft.length % 2 = 0) {values : List Nat} :
    Decodes fft values ↔ values = samples fft := by
  constructor
  · intro h
    refine List.ext_getElem? fun i => ?_
    rcases Nat.lt_or_ge i (fft.length / 2) with hi | hi
    · rw [h.value i hi, samples, List.getElem?_map, List.getElem?_range hi]
      rfl
    · rw [List.getElem?_eq_none (by rw [h.length]; exact hi), List.getElem?_eq_none]
      rw [samples, List.length_map, List.length_range]
      exact hi
  · rintro rfl
    refine ⟨by rw [samples, List.length_map, List.length_range], fun i hi => ?_,
      encoded_samples heven⟩
    rw [samples, List.getElem?_map, List.getElem?_range hi]
    rfl

/-- Two bytes and their value. -/
theorem fromBytesBig_eq_iff {i j : Nat} (hi : i + 2 ≤ fft.length) (hj : j + 2 ≤ fft.length) :
    fromBytesBig fft i (i + 2) = fromBytesBig fft j (j + 2) ↔
      fft[i]? = fft[j]? ∧ fft[i + 1]? = fft[j + 1]? := by
  have htwo (k : Nat) (hk : k + 2 ≤ fft.length) : slice fft k 2 = [fft[k], fft[k + 1]] := by
    rw [slice, List.drop_eq_getElem_cons (by omega), List.drop_eq_getElem_cons (by omega)]
    rfl
  rw [fromBytesBig, fromBytesBig, Nat.add_sub_cancel_left, Nat.add_sub_cancel_left, ofBEBytes,
    ofBEBytes, ofLEBytes_inj (by rw [List.length_reverse, List.length_reverse, length_slice hi,
      length_slice hj]), List.reverse_inj, htwo i hi, htwo j hj]
  simp [show i < fft.length by omega, show i + 1 < fft.length by omega,
    show j < fft.length by omega, show j + 1 < fft.length by omega]

/-- The loop's values are the samples if all bytes from the second on are one. -/
theorem windows_eq_iff (heven : fft.length % 2 = 0) :
    windows fft = samples fft ↔ OneFromSecond fft := by
  have hpairs : windows fft = samples fft ↔
      ∀ i < fft.length / 2, fft[i]? = fft[2 * i]? ∧ fft[i + 1]? = fft[2 * i + 1]? := by
    rw [windows, samples, List.map_inj_left]
    refine forall_congr' fun i => ?_
    rw [List.mem_range]
    refine imp_congr_right fun hi => ?_
    exact fromBytesBig_eq_iff (by omega) (by omega)
  rw [hpairs]
  constructor
  · intro h i
    -- a byte from the third on is one nearer to the first
    induction i using Nat.strong_induction_on with
    | h i ih =>
      intro hpos hi
      rcases Nat.lt_or_ge i 2 with hsecond | hlater
      · rw [show i = 1 by omega]
      · have hhalf := h (i / 2) (by omega)
        rcases Nat.mod_two_eq_zero_or_one i with hmod | hmod
        · rw [show 2 * (i / 2) = i by omega] at hhalf
          rw [← hhalf.1]
          exact ih (i / 2) (by omega) (by omega) (by omega)
        · rw [show 2 * (i / 2) + 1 = i by omega] at hhalf
          rw [← hhalf.2]
          exact ih (i / 2 + 1) (by omega) (by omega) (by omega)
  · intro h i hi
    rcases Nat.eq_zero_or_pos i with rfl | hpos
    · exact ⟨rfl, rfl⟩
    · rw [h i (by omega) (by omega), h (2 * i) (by omega) (by omega),
        h (i + 1) (by omega) (by omega), h (2 * i + 1) (by omega) (by omega)]
      exact ⟨rfl, rfl⟩

end Values

/-! ## The handler -/

/-- A message of type 31: a payload of a header of 14 bytes and two bytes a sample. -/
structure HighRes where
  version : UInt8
  header : List UInt8
  fft : List UInt8
  length_header : header.length = 14
  even : fft.length % 2 = 0
  size_lt : 14 + fft.length < 2 ^ 32

/-- The message as the radar sends it. -/
def HighRes.bytes (m : HighRes) : List UInt8 :=
  messageHeader m.version 31 (14 + m.fft.length) ++ (m.header ++ m.fft)

theorem power_handleReceivedMessage (strftime : Nat → String) {g : Globals} {rest : List UInt8}
    (m : HighRes) (hradar : g.radarSocket = m.bytes ++ rest) :
    ((handleReceivedMessage strftime).after g).power =
      g.power ++ if g.encoderSize = 0 then [] else windows m.fft := by
  have hpayload : (m.header ++ m.fft).length = 14 + m.fft.length := by
    rw [List.length_append, m.length_header]
  have hfft : (m.header ++ m.fft).drop 14 = m.fft := List.drop_left' m.length_header
  -- the globals when the payload is read
  set g' : Globals := { g with
    radarSocket := m.header ++ m.fft ++ rest
    data := m.version :: 31 :: beBytes 4 (14 + m.fft.length)
    version := m.version.toNat
    messageType := 31
    payloadSize := 14 + m.fft.length }
  have hheader : (readHeader.run { g with messageType := 0 }).2 = g' := by
    rw [HighRes.bytes, List.append_assoc] at hradar
    rw [run_readHeader (g := { g with messageType := 0 }) hradar m.size_lt]
    rfl
  have hconfig : (31 : Nat) ≠ 10 := by decide
  have hcaught := run_caught readHeader { g with messageType := 0 }
  rw [hheader] at hcaught
  rw [Script.after, handleReceivedMessage, run_bind_modify, run_bind_of_ok hcaught, run_bind_get,
    if_neg (show g'.messageType ≠ 10 from hconfig), run_bind_get, run_bind_get,
    if_pos (show g'.messageType = 31 ∨ g'.messageType = 30 from .inl rfl), run_caught]
  split
  · next hencoder =>
    rw [List.append_nil]
    exact power_readFft_of_zero rfl hpayload strftime hencoder
  · next hencoder =>
    have hread := power_readFft (g := g') rfl hpayload strftime rfl hencoder
    rw [hfft] at hread
    exact hread

/-- **The samples of a message.** The handler decodes them exactly if there are none, or it has
    the size of the encoder and all bytes of the samples from the second on are one. -/
theorem decodesPayload_iff (strftime : Nat → String) (g : Globals) (m : HighRes)
    (rest : List UInt8) :
    (∃ values, ((handleReceivedMessage strftime).after
        { g with radarSocket := m.bytes ++ rest }).power = g.power ++ values ∧
      Decodes m.fft values) ↔
      m.fft = [] ∨ g.encoderSize ≠ 0 ∧ OneFromSecond m.fft := by
  rw [power_handleReceivedMessage strftime m rfl]
  have hdecoded : (∃ values, (g.power ++ if g.encoderSize = 0 then [] else windows m.fft) =
      g.power ++ values ∧ Decodes m.fft values) ↔
      (if g.encoderSize = 0 then [] else windows m.fft) = samples m.fft := by
    constructor
    · rintro ⟨values, hvalues, hdecodes⟩
      rw [List.append_cancel_left hvalues]
      exact (decodes_iff m.even).mp hdecodes
    · intro h
      exact ⟨_, rfl, (decodes_iff m.even).mpr h⟩
  rw [hdecoded]
  split
  · next hencoder =>
    rw [eq_comm, samples_eq_nil m.even]
    exact ⟨.inl, fun h => h.resolve_right fun hright => hright.1 hencoder⟩
  · next hencoder =>
    rw [windows_eq_iff m.even]
    refine ⟨fun h => .inr ⟨hencoder, h⟩, ?_⟩
    rintro (hnil | h)
    · intro i _ hi
      rw [hnil] at hi
      exact absurd hi (Nat.not_lt_zero i)
    · exact h.2

/-- Two samples, of the values one and 515. -/
def HighRes.twoSamples : HighRes where
  version := 1
  header := List.replicate 14 0
  fft := [0, 1, 2, 3]
  length_header := rfl
  even := rfl
  size_lt := by decide

/-- The script finds one and 258. -/
theorem not_forall_decodesPayload :
    ¬ ∀ (strftime : Nat → String) (g : Globals) (m : HighRes) (rest : List UInt8),
      ∃ values, ((handleReceivedMessage strftime).after
          { g with radarSocket := m.bytes ++ rest }).power = g.power ++ values ∧
        Decodes m.fft values := by
  intro h
  obtain ⟨values, hvalues, hdecodes⟩ := h (fun _ => "1970-01-01 00:00:00")
    { Globals.initial [] with encoderSize := 5600, azimuthSamples := some 400 } HighRes.twoSamples []
  rw [power_handleReceivedMessage _ HighRes.twoSamples rfl] at hvalues
  have hfound : values = [1, 258] := (List.append_cancel_left hvalues).symm
  have hsecond := hdecodes.value 1 (by decide)
  rw [hfound] at hsecond
  exact absurd hsecond (by decide)

end FftData

end Python

end Navtech
