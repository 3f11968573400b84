/-
  `set_navigation_gain_and_offset` of `cpp_17/network/radar_client.cpp`.

  Gain and offset are multiplied by a million, in `float`, and converted to words of 32 bits with
  no look at what there is to convert. The two words keep out of each other's way. A word that
  decodes to the value it was made of, with less than a millionth of error, comes of every value
  whose product lies above -1 and below 2^32, with some distance for the rounding, and within
  less than 1 of a `float`; and of no other value (`encoded_iff`). What a conversion gives
  for a product outside is not defined; it is a parameter.
-/
import Mathlib.Tactic.FieldSimp
import Navtech.Lib.BinaryRounding
import Navtech.Network.RadarClient
import Navtech.Utility.AngleLoop

namespace Navtech

open ByteOrder BinaryFloat Buffer PackedRecord Navtech.Utility
open Navtech.Network (Bytes Message MessageType frameBytes drop_frameBytes)

namespace Network.MessageType

def setNavRangeOffsetAndGain : MessageType := 124

end Network.MessageType

namespace Utility.Binary32

/-- The exact number. -/
def number (x : Binary32) : ExtRat :=
  match x.value with
  | .finite n => .finite ((n : ℚ) / binary32.one)
  | .infinite negative => if negative then .negInf else .posInf
  | .nan => .nan

/-- The product with a positive whole number that is a `float`. -/
def times (x : Binary32) (c : Nat) : Binary32 := ⟨UInt32.ofNat (mulConst binary32 c x.bits.toNat)⟩

end Utility.Binary32

namespace RadarClient

variable {x : Externals}

/-- `static_cast<std::uint32_t>(value * range_multiplier)`. -/
def scaledWord (undefined : ExtRat → UInt32) (value : Binary32) : UInt32 :=
  let product := (value.times rangeMultiplier).number
  match product.toUnsigned 32 with
  | some v => UInt32.ofNat v
  | none => undefined product

def setNavigationGainAndOffset (undefined : ExtRat → UInt32) (c : RadarClient)
    (gain offset : Binary32) : RadarClient × List (Output x) :=
  if c.connected then
    let buffer := List.replicate (4 * 2) 0
    let netGain := htonl (scaledWord undefined gain)
    let netOffset := htonl (scaledWord undefined offset)
    let buffer := store 4 buffer 0 netGain.toNat
    let buffer := store 4 buffer 4 netOffset.toNat
    (c, [.send ((Message.default.setType .setNavRangeOffsetAndGain).append buffer).relinquish])
  else (c, [])

/-! ## What is sent -/

/-- The product converts to the word, which decodes to `q` with an error below a millionth. -/
def Decodes (value : Binary32) (word : Nat) (q : ℚ) : Prop :=
  (value.times rangeMultiplier).number.toUnsigned 32 = some word ∧
    |(word : ℚ) / rangeMultiplier - q| < 1 / rangeMultiplier

/-- Both values are sent, in words of their own. -/
def Encoded (gain offset : Binary32) (p q : ℚ) (sent : List (Output x)) : Prop :=
  ∃ g o, Decodes gain g p ∧ Decodes offset o q ∧
    sent = [.send (frameBytes .setNavRangeOffsetAndGain (beBytes 4 g ++ beBytes 4 o))]

/-- A million times the number, up to the rounding, has a whole part of 32 bits, and there is a
    `float` within less than 1. -/
def Fits (q : ℚ) : Prop :=
  -1 + 1 / 2 ^ 25 < rangeMultiplier * q ∧ rangeMultiplier * q < 2 ^ 32 - 2 ^ 7 ∧
    ∃ (y : Binary32) (r : ℚ), y.number = .finite r ∧ |r - rangeMultiplier * q| < 1

/-! ## One word -/

section Word

open Binary32

/-- The product of a finite number. -/
theorem number_times {value : Binary32} {n : Int} (h : value.value = .finite n) (c : Nat) :
    (value.times c).value = BinaryFloat.value binary32 (encode binary32 (n * c)) := by
  rw [← value_mulConst h]
  change BinaryFloat.value binary32
    (UInt32.ofNat (mulConst binary32 c value.bits.toNat)).toNat = _
  rw [UInt32.toNat_ofNat_of_lt' (mulConst_lt value.bits_lt)]

theorem number_of_finite {value : Binary32} {n : Int} (h : value.value = .finite n) :
    value.number = .finite ((n : ℚ) / 2 ^ 149) := by
  unfold number
  rw [h, one_eq, Nat.cast_pow, Nat.cast_ofNat]

theorem number_finite {value : Binary32} {q : ℚ} (h : value.number = .finite q) :
    ∃ n : Int, value.value = .finite n ∧ q = (n : ℚ) / 2 ^ 149 := by
  unfold number at h
  split at h
  · rename_i n hn
    refine ⟨n, hn, (ExtRat.finite.inj h).symm.trans ?_⟩
    rw [one_eq, Nat.cast_pow, Nat.cast_ofNat]
  · split at h <;> cases h
  · cases h

theorem toUnsigned_units {v : Int} {word : Nat} :
    (ExtRat.finite ((v : ℚ) / 2 ^ 149)).toUnsigned 32 = some word ↔
      (-2 ^ 149 < v ∧ v < 2 ^ 181) ∧ (v / 2 ^ 149).toNat = word := by
  have hpos : (0 : ℚ) < 2 ^ 149 := by positivity
  have hlo : -1 < (v : ℚ) / 2 ^ 149 ↔ -2 ^ 149 < v := by
    rw [lt_div_iff₀ hpos, neg_one_mul]
    exact_mod_cast Iff.rfl
  have hhi : (v : ℚ) / 2 ^ 149 < 2 ^ 32 ↔ v < 2 ^ 181 := by
    rw [div_lt_iff₀ hpos, ← pow_add]
    exact_mod_cast Iff.rfl
  have hfloor : ⌊(v : ℚ) / 2 ^ 149⌋ = v / 2 ^ 149 := by
    have h := Rat.floor_intCast_div_natCast v (2 ^ 149)
    rwa [Nat.cast_pow, Nat.cast_pow, Nat.cast_ofNat, Nat.cast_ofNat] at h
  unfold ExtRat.toUnsigned
  dsimp only
  rw [hfloor]
  split
  · rename_i hbounds
    rw [hlo, hhi] at hbounds
    rw [Option.some.injEq, and_iff_right hbounds]
  · rename_i hbounds
    rw [hlo, hhi] at hbounds
    exact iff_of_false (fun h => by cases h) fun h => hbounds h.1

/-- Below 1 the product rounds to a number below 1, up to half of the distance there. -/
theorem roundNat_lt_one_iff (a : Nat) : roundNat 24 a < 2 ^ 149 ↔ a < 2 ^ 149 - 2 ^ 124 := by
  have hbelow : roundNat 24 (2 ^ 149 - 2 ^ 124 - 1) < 2 ^ 149 := by decide +kernel
  have htie : roundNat 24 (2 ^ 149 - 2 ^ 124 - 1 + 1) = 2 ^ 149 := by decide +kernel
  rw [roundNat_lt_iff (by decide) hbelow htie]
  omega

/-- Likewise for 2^32. -/
theorem roundNat_lt_top_iff (a : Nat) : roundNat 24 a < 2 ^ 181 ↔ a < 2 ^ 181 - 2 ^ 156 := by
  have hbelow : roundNat 24 (2 ^ 181 - 2 ^ 156 - 1) < 2 ^ 181 := by decide +kernel
  have htie : roundNat 24 (2 ^ 181 - 2 ^ 156 - 1 + 1) = 2 ^ 181 := by decide +kernel
  rw [roundNat_lt_iff (by decide) hbelow htie]
  omega

/-- `Fits`, in the unit of the format. -/
def FitsUnits (n : Int) : Prop :=
  -(2 ^ 149 - 2 ^ 124) < n ∧ n < 2 ^ 181 - 2 ^ 156 ∧
    ∃ (y : Binary32) (m : Int), y.value = .finite m ∧ |m - n| < 2 ^ 149

theorem fits_units_iff (n : Int) : Fits ((n : ℚ) / 2 ^ 149) ↔ FitsUnits (n * 1000000) := by
  have hpos : (0 : ℚ) < 2 ^ 149 := by positivity
  have hproduct : (rangeMultiplier : ℚ) * (n / 2 ^ 149) = ((n * 1000000 : Int) : ℚ) / 2 ^ 149 := by
    unfold rangeMultiplier
    push_cast
    ring
  unfold Fits FitsUnits
  rw [hproduct]
  generalize n * 1000000 = n
  have hlo : -1 + 1 / 2 ^ 25 < (n : ℚ) / 2 ^ 149 ↔ -(2 ^ 149 - 2 ^ 124) < n := by
    rw [lt_div_iff₀ hpos, show (-1 + 1 / 2 ^ 25 : ℚ) * 2 ^ 149 = -(2 ^ 149 - 2 ^ 124) by norm_num]
    exact_mod_cast Iff.rfl
  have hhi : (n : ℚ) / 2 ^ 149 < 2 ^ 32 - 2 ^ 7 ↔ n < 2 ^ 181 - 2 ^ 156 := by
    rw [div_lt_iff₀ hpos, show (2 ^ 32 - 2 ^ 7 : ℚ) * 2 ^ 149 = 2 ^ 181 - 2 ^ 156 by norm_num]
    exact_mod_cast Iff.rfl
  have hnear (m : Int) : |(m : ℚ) / 2 ^ 149 - n / 2 ^ 149| < 1 ↔ |m - n| < 2 ^ 149 := by
    rw [← sub_div, abs_div, abs_of_pos hpos, div_lt_iff₀ hpos, one_mul]
    exact_mod_cast Iff.rfl
  rw [hlo, hhi]
  refine and_congr_right fun _ => and_congr_right fun _ => ⟨?_, ?_⟩
  · rintro ⟨y, r, hy, hr⟩
    obtain ⟨m, hm, rfl⟩ := number_finite hy
    exact ⟨y, m, hm, (hnear m).mp hr⟩
  · rintro ⟨y, m, hy, hm⟩
    exact ⟨y, _, number_of_finite hy, (hnear m).mpr hm⟩

/-- The word's error, in the unit of the format. -/
theorem error_units_iff (word : Nat) (n : Int) :
    |(word : ℚ) / rangeMultiplier - (n : ℚ) / 2 ^ 149| < (1 : ℚ) / rangeMultiplier ↔
      |(word : Int) * 2 ^ 149 - n * 1000000| < 2 ^ 149 := by
  have hpos : (0 : ℚ) < 2 ^ 149 := by positivity
  have hmultiplier : (0 : ℚ) < rangeMultiplier := by norm_num [rangeMultiplier]
  have hproduct : (word : ℚ) / rangeMultiplier - (n : ℚ) / 2 ^ 149 =
      ((word * 2 ^ 149 - n * 1000000 : Int) : ℚ) / 2 ^ 149 / rangeMultiplier := by
    unfold rangeMultiplier
    push_cast
    field_simp
    norm_num
  rw [hproduct, abs_div, abs_of_pos hmultiplier, div_lt_div_iff_of_pos_right hmultiplier, abs_div,
    abs_of_pos hpos, div_lt_iff₀ hpos, one_mul]
  exact_mod_cast Iff.rfl

/-- A `float` is within less than 1 exactly if the rounded product is. -/
theorem exists_near_iff {value : Binary32} {n : Int}
    (hfinite : value.value = .finite (roundTo 24 n)) :
    (∃ (y : Binary32) (m : Int), y.value = .finite m ∧ |m - n| < 2 ^ 149) ↔
      |roundTo 24 n - n| < 2 ^ 149 := by
  constructor
  · rintro ⟨y, m, hy, hm⟩
    exact lt_of_le_of_lt (roundTo_nearest (f := binary32) n hy) hm
  · intro h
    exact ⟨value, _, hfinite, h⟩

/-- The word that a rounded product is cut off to. -/
theorem exists_word_iff (n : Int) :
    (∃ word : Nat, ((-2 ^ 149 < roundTo 24 n ∧ roundTo 24 n < 2 ^ 181) ∧
      (roundTo 24 n / 2 ^ 149).toNat = word) ∧ |(word : Int) * 2 ^ 149 - n| < 2 ^ 149) ↔
    -(2 ^ 149 - 2 ^ 124) < n ∧ n < 2 ^ 181 - 2 ^ 156 ∧ |roundTo 24 n - n| < 2 ^ 149 := by
  obtain ⟨a, rfl | rfl⟩ := n.eq_nat_or_neg
  · have htop := roundNat_lt_top_iff a
    have hcut := roundNat_cut_iff 24 a 149
    rw [roundTo_natCast]
    have hword : ((roundNat 24 a : Int) / 2 ^ 149).toNat = roundNat 24 a / 2 ^ 149 := by omega
    simp only [hword, Int.abs_eq_natAbs] at hcut ⊢
    constructor
    · rintro ⟨word, ⟨⟨-, hlt⟩, rfl⟩, herror⟩
      omega
    · rintro ⟨-, hlt, herror⟩
      exact ⟨_, ⟨⟨by omega, by omega⟩, rfl⟩, by omega⟩
  · -- what is above -1 is cut off to zero
    have hone := roundNat_lt_one_iff a
    rw [roundTo_neg_natCast]
    simp only [Int.abs_eq_natAbs]
    constructor
    · rintro ⟨word, ⟨⟨hlt, -⟩, rfl⟩, herror⟩
      omega
    · rintro ⟨hlt, -, -⟩
      exact ⟨0, ⟨⟨by omega, by omega⟩, by omega⟩, by omega⟩

theorem decodes_finite_iff {value : Binary32} {n : Int} (h : value.value = .finite n)
    (hfinite : encodeMagnitude binary32 (n * 1000000).natAbs < binary32.infinity) :
    (∃ word, Decodes value word ((n : ℚ) / 2 ^ 149)) ↔ FitsUnits (n * 1000000) := by
  have hproduct : (value.times rangeMultiplier).value = .finite (roundTo 24 (n * 1000000)) := by
    rw [number_times h]
    exact value_encode hfinite
  unfold Decodes FitsUnits
  rw [number_of_finite hproduct, exists_near_iff hproduct]
  simp only [toUnsigned_units, error_units_iff]
  exact exists_word_iff (n * 1000000)

/-- A value is sent with less than a millionth of error exactly if it fits. -/
theorem decodes_iff {value : Binary32} {q : ℚ} (h : value.number = .finite q) :
    (∃ word, Decodes value word q) ↔ Fits q := by
  obtain ⟨n, hn, rfl⟩ := number_finite h
  rw [fits_units_iff]
  by_cases hfinite : encodeMagnitude binary32 (n * 1000000).natAbs < binary32.infinity
  · exact decodes_finite_iff hn hfinite
  · -- an infinity does not convert, and what fits is not rounded to one
    have hinfinite : (value.times rangeMultiplier).number.toUnsigned 32 = none := by
      have hproduct : (value.times rangeMultiplier).value =
          .infinite (decide (n * 1000000 < 0)) := by
        rw [number_times hn]
        exact value_encode_infinite hfinite
      unfold number
      rw [hproduct]
      dsimp only
      split <;> rfl
    refine iff_of_false ?_ ?_
    · rintro ⟨word, hword, -⟩
      rw [hinfinite] at hword
      cases hword
    · rintro ⟨hlo, hhi, -⟩
      have htop : magnitude binary32 0x4F800000 = 2 ^ 181 := by decide +kernel
      have hinfinity : 0x4F800000 < binary32.infinity := by decide
      exact hfinite (encodeMagnitude_lt hinfinity (by omega))

theorem toNat_scaledWord (undefined : ExtRat → UInt32) {value : Binary32} {word : Nat} {q : ℚ}
    (h : Decodes value word q) : (scaledWord undefined value).toNat = word := by
  unfold scaledWord
  dsimp only
  rw [h.1]
  exact UInt32.toNat_ofNat_of_lt' (ExtRat.toUnsigned_lt h.1)

end Word

/-! ## The message -/

theorem setNavigationGainAndOffset_sent (undefined : ExtRat → UInt32) {c : RadarClient}
    (hc : c.connected = true) (gain offset : Binary32) :
    (c.setNavigationGainAndOffset (x := x) undefined gain offset).2 =
      [.send (frameBytes .setNavRangeOffsetAndGain
        (beBytes 4 (scaledWord undefined gain).toNat ++
          beBytes 4 (scaledWord undefined offset).toNat))] := by
  have hbuffer (g o : Nat) :
      store 4 (store 4 (List.replicate (4 * 2) 0) 0 (byteSwap 4 g)) 4 (byteSwap 4 o) =
        beBytes 4 g ++ beBytes 4 o := by
    unfold store
    rw [leBytes_byteSwap, leBytes_byteSwap]
    have hfirst : copyTo (List.replicate (4 * 2) 0) 0 (beBytes 4 g) =
        beBytes 4 g ++ List.replicate 4 0 := by
      have hhalves : List.replicate (4 * 2) (0 : UInt8) = List.replicate 4 0 ++ List.replicate 4 0 :=
        rfl
      rw [hhalves]
      refine copyTo_zero_append ?_
      rw [List.length_replicate, length_beBytes]
    have hsecond := copyTo_append (a := beBytes 4 g) (c := []) (length_beBytes 4 g)
      (show (List.replicate 4 (0 : UInt8)).length = (beBytes 4 o).length from
        (length_beBytes 4 o).symm)
    rw [List.append_nil, List.append_nil] at hsecond
    rw [hfirst, hsecond]
  unfold setNavigationGainAndOffset Message.append
  dsimp only
  rw [if_pos hc, toNat_htonl, toNat_htonl, hbuffer, Message.default_eq,
    Message.setType_frameBytes, Message.appendBytes_frameBytes, Message.relinquish_frameBytes,
    List.nil_append]

/-- **Gain and offset survive encoding** exactly if both fit. -/
theorem encoded_iff (undefined : ExtRat → UInt32) {c : RadarClient} (hc : c.connected = true)
    {gain offset : Binary32} {p q : ℚ} (hgain : gain.number = .finite p)
    (hoffset : offset.number = .finite q) :
    Encoded gain offset p q
      (c.setNavigationGainAndOffset (x := x) undefined gain offset).2 ↔ Fits p ∧ Fits q := by
  rw [← decodes_iff hgain, ← decodes_iff hoffset]
  constructor
  · rintro ⟨g, o, hg, ho, -⟩
    exact ⟨⟨g, hg⟩, o, ho⟩
  · rintro ⟨⟨g, hg⟩, o, ho⟩
    refine ⟨g, o, hg, ho, ?_⟩
    rw [setNavigationGainAndOffset_sent undefined hc, toNat_scaledWord undefined hg,
      toNat_scaledWord undefined ho]

theorem number_one : Binary32.number ⟨0x3F800000⟩ = .finite 1 := by
  rw [number_of_finite (n := 2 ^ 149) (by decide +kernel)]
  norm_num

/-- A gain of 1 and no offset. -/
theorem encoded_unit :
    Encoded ⟨0x3F800000⟩ ⟨0⟩ 1 0 (setNavigationGainAndOffset (x := .unparsed) (fun _ => 0)
      { new with connected := true } ⟨0x3F800000⟩ ⟨0⟩).2 := by
  have hzero : Binary32.number ⟨0⟩ = .finite 0 := by
    rw [number_of_finite (n := 0) (by decide +kernel), Int.cast_zero, zero_div]
  refine (encoded_iff _ rfl number_one hzero).mpr ⟨?_, ?_⟩
  · have hmillion : Binary32.number ⟨0x49742400⟩ = .finite 1000000 := by
      rw [number_of_finite (n := 1000000 * 2 ^ 149) (by decide +kernel)]
      norm_num
    refine ⟨?_, ?_, _, _, hmillion, ?_⟩ <;> norm_num [rangeMultiplier]
  · refine ⟨?_, ?_, _, _, hzero, ?_⟩ <;> norm_num

/-- -0.31 does not convert. -/
theorem not_forall_encoded :
    ¬ ∀ (undefined : ExtRat → UInt32) (c : RadarClient), c.connected = true →
      ∀ (gain offset : Binary32) (p q : ℚ), gain.number = .finite p → offset.number = .finite q →
      Encoded gain offset p q
        (c.setNavigationGainAndOffset (x := .unparsed) undefined gain offset).2 := by
  intro h
  have hoffset := number_of_finite
    (show Binary32.value ⟨0xBE9EB852⟩ = .finite (-(0x9EB852 * 2 ^ 124)) by decide +kernel)
  obtain ⟨g, o, -, ho, -⟩ := h (fun _ => 0) { new with connected := true } rfl
    ⟨0x3F800000⟩ ⟨0xBE9EB852⟩ _ _ number_one hoffset
  have hfits := (decodes_iff hoffset).mp ⟨o, ho⟩
  have hlow := hfits.1
  norm_num [rangeMultiplier] at hlow

end RadarClient

end Navtech
