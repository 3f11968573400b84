/-
  `update_contour_map` of `cpp_17/network/radar_client.cpp`.

  The map is 360 words of 16 bits, most significant byte first. Each is divided by the bin size
  and rounded up, and the result is converted to 16 bits with no look at its size, as the bin
  size is used with no look at whether a configuration has set it. The map is converted exactly
  if the bin size is a number other than zero and every quotient has a place in 16 bits
  (`converted_iff`). What a conversion without a place gives is not defined; it is a parameter.
-/
import Navtech.Network.RadarClientRun

namespace Navtech

open ByteOrder
open Navtech.Network (Bytes Message MessageType frameBytes drop_frameBytes)

namespace Network.MessageType

def contourUpdate : MessageType := 50

end Network.MessageType

namespace RadarClient

variable {x : Externals}

/-- `(std::uint16_t)std::ceil(result / bin_size)`. -/
def scaledContour (undefined : ExtRat → UInt16) (binSize : ExtRat) (result : Nat) : UInt16 :=
  let quotient := (ExtRat.quotient result binSize).ceil
  match quotient.toUnsigned 16 with
  | some v => UInt16.ofNat v
  | none => undefined quotient

/-- The loop over the pairs of bytes. -/
def convertContour (undefined : ExtRat → UInt16) (binSize : ExtRat) : Bytes → Bytes
  | hi :: lo :: rest =>
    let result := hi.toNat <<< 8 ||| lo.toNat
    let result := (scaledContour undefined binSize result).toNat
    UInt8.ofNat ((result &&& 0xff00) >>> 8) :: UInt8.ofNat (result &&& 0x00ff) ::
      convertContour undefined binSize rest
  | _ => []

def updateContourMap (undefined : ExtRat → UInt16) (c : RadarClient) (contourData : Bytes) :
    RadarClient × List (Output x) :=
  if c.connected then
    let contour :=
      if contourData.length = 720 then convertContour undefined c.binSize contourData else []
    (c, [.send ((Message.default.setType .contourUpdate).append contour).relinquish])
  else (c, [])

/-! ## What is sent -/

/-- The words of a map, most significant byte first. -/
def mapWords : Bytes → List Nat
  | hi :: lo :: rest => ofBEBytes [hi, lo] :: mapWords rest
  | _ => []

/-- The words as they are sent. -/
def wordBytes (words : List UInt16) : Bytes := words.flatMap fun word => beBytes 2 word.toNat

/-- The division is defined, and every word, divided and rounded up, is sent in its place. -/
def Converted (c : RadarClient) (contourData : Bytes) (sent : List (Output x)) : Prop :=
  ∃ q, c.binSize = .finite q ∧ q ≠ 0 ∧ ∃ words : List UInt16,
    sent = [.send (frameBytes .contourUpdate (wordBytes words))] ∧
      words.map (fun word => (word.toNat : ℤ)) =
        (mapWords contourData).map fun word : Nat => ⌈(word : ℚ) / q⌉

@[simp] theorem wordBytes_cons (word : UInt16) (words : List UInt16) :
    wordBytes (word :: words) = beBytes 2 word.toNat ++ wordBytes words := rfl

theorem word_eq (hi lo : UInt8) : hi.toNat <<< 8 ||| lo.toNat = ofBEBytes [hi, lo] := by
  rw [← Nat.shiftLeft_add_eq_or_of_lt lo.toNat_lt, Nat.shiftLeft_eq]
  change _ = lo.toNat + 256 * (hi.toNat + 256 * 0)
  omega

theorem bytes_eq (v : Nat) :
    [UInt8.ofNat ((v &&& 0xff00) >>> 8), UInt8.ofNat (v &&& 0x00ff)] = beBytes 2 v := by
  have hlow (n : Nat) : UInt8.ofNat (n &&& 0xff) = UInt8.ofNat n := by
    apply UInt8.toNat_inj.mp
    rw [UInt8.toNat_ofNat', UInt8.toNat_ofNat', Nat.and_two_pow_sub_one_eq_mod n 8,
      Nat.mod_mod]
  have hhigh : (v &&& 0xff00) >>> 8 = v / 256 &&& 0xff := by
    rw [Nat.shiftRight_and_distrib, Nat.shiftRight_eq_div_pow]
    rfl
  rw [hhigh, hlow, hlow]
  rfl

/-- The loop converts word by word. -/
theorem convertContour_eq (undefined : ExtRat → UInt16) (binSize : ExtRat) (contourData : Bytes) :
    convertContour undefined binSize contourData =
      wordBytes ((mapWords contourData).map (scaledContour undefined binSize)) := by
  induction contourData using mapWords.induct with
  | case1 hi lo rest ih =>
    unfold convertContour mapWords
    dsimp only
    rw [ih, word_eq, List.map_cons, wordBytes_cons, ← bytes_eq]
    rfl
  | case2 rest hrest =>
    match rest with
    | [] => rfl
    | [b] => rfl
    | hi :: lo :: rest => exact absurd rfl (hrest hi lo rest)

theorem wordBytes_inj {a b : List UInt16} (h : wordBytes a = wordBytes b) : a = b := by
  have hvalue (v : UInt16) : ofBEBytes (beBytes 2 v.toNat) = v.toNat := by
    rw [ofBEBytes_beBytes]
    exact Nat.mod_eq_of_lt v.toNat_lt
  have hne (v : UInt16) (rest : List UInt16) : wordBytes (v :: rest) ≠ [] :=
    List.cons_ne_nil _ _
  induction a generalizing b with
  | nil =>
    cases b with
    | nil => rfl
    | cons v rest => exact absurd h.symm (hne v rest)
  | cons v rest ih =>
    cases b with
    | nil => exact absurd h (hne v rest)
    | cons v' rest' =>
      obtain ⟨hword, hrest⟩ := List.append_inj
        (show beBytes 2 v.toNat ++ wordBytes rest = beBytes 2 v'.toNat ++ wordBytes rest' from h)
        (by rw [length_beBytes, length_beBytes])
      have hv := congrArg ofBEBytes hword
      rw [hvalue, hvalue] at hv
      rw [UInt16.toNat_inj.mp hv, ih hrest]

/-! ## One word -/

/-- A word is what it should be exactly if the quotient has a place in 16 bits. -/
theorem scaledContour_iff (undefined : ExtRat → UInt16) {q : ℚ} (hq : q ≠ 0) (word : Nat) :
    ((scaledContour undefined (.finite q) word).toNat : ℤ) = ⌈(word : ℚ) / q⌉ ↔
      -1 < (word : ℚ) / q ∧ (word : ℚ) / q ≤ 65535 := by
  have hplace : 0 ≤ ⌈(word : ℚ) / q⌉ ∧ ⌈(word : ℚ) / q⌉ ≤ 65535 ↔
      -1 < (word : ℚ) / q ∧ (word : ℚ) / q ≤ 65535 := by
    rw [Int.ceil_le, ← Int.sub_one_lt_iff, Int.lt_ceil]
    norm_num
  rw [← hplace]
  constructor
  · intro h
    have hlt := (scaledContour undefined (.finite q) word).toNat_lt
    omega
  · intro h
    have hconverts : (ExtRat.finite (⌈(word : ℚ) / q⌉ : ℚ)).toUnsigned 16 =
        some ⌈(word : ℚ) / q⌉.toNat :=
      ExtRat.toUnsigned_intCast.mpr ⟨by omega, by omega⟩
    unfold scaledContour ExtRat.quotient
    dsimp only
    rw [ExtRat.div_of_ne hq, ExtRat.ceil, hconverts]
    change ((UInt16.ofNat ⌈(word : ℚ) / q⌉.toNat).toNat : ℤ) = _
    rw [UInt16.toNat_ofNat_of_lt' (by change _ < 65536; omega)]
    omega

/-- **The map is converted** exactly if the bin size is a number other than zero by which every
    word has a quotient of 16 bits. -/
theorem converted_iff (undefined : ExtRat → UInt16) {c : RadarClient} (hc : c.connected = true)
    {contourData : Bytes} (hlength : contourData.length = 720) :
    Converted c contourData (c.updateContourMap (x := x) undefined contourData).2 ↔
      ∃ q, c.binSize = .finite q ∧ q ≠ 0 ∧
        ∀ word ∈ mapWords contourData, -1 < (word : ℚ) / q ∧ (word : ℚ) / q ≤ 65535 := by
  have hsent : (c.updateContourMap (x := x) undefined contourData).2 = [.send
      (frameBytes .contourUpdate
        (wordBytes ((mapWords contourData).map (scaledContour undefined c.binSize))))] := by
    unfold updateContourMap Message.append
    dsimp only
    rw [if_pos hc, if_pos hlength, convertContour_eq, Message.default_eq,
      Message.setType_frameBytes, Message.appendBytes_frameBytes,
      Message.relinquish_frameBytes, List.nil_append]
  have hwords (q : ℚ) (hq : q ≠ 0) :
      (((mapWords contourData).map (scaledContour undefined (.finite q))).map
        fun word => (word.toNat : ℤ)) =
          (mapWords contourData).map (fun word : Nat => ⌈(word : ℚ) / q⌉) ↔
      ∀ word ∈ mapWords contourData, -1 < (word : ℚ) / q ∧ (word : ℚ) / q ≤ 65535 := by
    rw [List.map_map, List.map_inj_left]
    exact forall₂_congr fun word _ => scaledContour_iff undefined hq word
  rw [hsent]
  constructor
  · rintro ⟨q, hsize, hq, words, hmessage, hvalues⟩
    have hframe := Output.send.inj (List.singleton_inj.mp hmessage)
    have hbytes := congrArg (List.drop Message.headerSize) hframe
    rw [drop_frameBytes, drop_frameBytes] at hbytes
    obtain rfl := wordBytes_inj hbytes
    rw [hsize] at hvalues
    exact ⟨q, hsize, hq, (hwords q hq).mp hvalues⟩
  · rintro ⟨q, hsize, hq, hall⟩
    refine ⟨q, hsize, hq, _, rfl, ?_⟩
    rw [hsize]
    exact (hwords q hq).mpr hall

/-- A bin size of a metre. -/
theorem converted_metres :
    Converted { new with connected := true, binSize := .finite 1 } (List.replicate 720 1)
      (updateContourMap (x := .unparsed) (fun _ => 0)
        { new with connected := true, binSize := .finite 1 } (List.replicate 720 1)).2 := by
  have hwords : ∀ word ∈ mapWords (List.replicate 720 1), word = 257 := by decide +kernel
  refine (converted_iff _ rfl (List.length_replicate ..)).mpr
    ⟨1, rfl, one_ne_zero, fun word hword => ?_⟩
  rw [hwords word hword]
  norm_num

/-- A client that has just been connected has no bin size to divide by. -/
theorem not_forall_converted :
    ¬ ∀ (undefined : ExtRat → UInt16) (events : List Event)
      (r : RadarClient × List (Output .unparsed)), new.run events = .ok r →
      r.1.connected = true → ∀ contourData : Bytes, contourData.length = 720 →
      Converted r.1 contourData (r.1.updateContourMap (x := .unparsed) undefined contourData).2 := by
  intro h
  obtain ⟨q, hsize, hq, -⟩ := h (fun _ => 0) [.connection true]
    ({ new with connected := true }, []) rfl rfl (List.replicate 720 1) (List.length_replicate ..)
  exact hq (ExtRat.finite.inj hsize).symm

end RadarClient

end Navtech
