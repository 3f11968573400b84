/-
  The 64-bit conversions of `cpp_17/utility/net_conversion.cpp`, on a little-endian host.

  `double_uint64_map` is a union: its eight bytes in memory, which a `double`, a 64-bit number
  and two 32-bit numbers share. `to_uint64_network` converts each of the two 32-bit numbers and
  leaves it where it is, so the bytes of each half are reversed and the halves keep their
  places (`toVectorOf_toUint64Network`): the lower half of the pattern goes first. The 16- and
  32-bit conversions of the same file store the most significant byte first. The way back
  undoes the way there whatever the order on the wire is
  (`fromUint64Network_toUint64Network`).
-/
import Navtech.Lib.PackedRecord
import Navtech.Utility.NetConversion

namespace Navtech.Utility

open ByteOrder Buffer PackedRecord

/-- `double_uint64_map`: the memory that its members share. -/
structure DoubleUint64Map where
  mem : List UInt8
  size_eq : mem.length = 8
deriving DecidableEq

namespace DoubleUint64Map

/-- The union after an assignment to `as_uint`. -/
def ofUint (value : UInt64) : DoubleUint64Map :=
  ⟨leBytes 8 value.toNat, length_leBytes 8 value.toNat⟩

/-- The union after an assignment to `as_double`. -/
def ofDouble (value : Binary64) : DoubleUint64Map := ofUint value.bits

def asUint (u : DoubleUint64Map) : UInt64 := UInt64.ofNat (ofLEBytes u.mem)

def asDouble (u : DoubleUint64Map) : Binary64 := ⟨u.asUint⟩

/-- `as_array[i]`. -/
def asArray (u : DoubleUint64Map) (i : Fin 2) : UInt32 := UInt32.ofNat (load 4 u.mem (4 * i))

/-- The union after an assignment to `as_array[i]`. -/
def setArray (u : DoubleUint64Map) (i : Fin 2) (value : UInt32) : DoubleUint64Map where
  mem := store 4 u.mem (4 * i) value.toNat
  size_eq := by rw [store, length_copyTo, u.size_eq]

/-- `u.as_array[0] = convert(u.as_array[0]); u.as_array[1] = convert(u.as_array[1]);`. -/
def convertArray (convert : UInt32 → UInt32) (u : DoubleUint64Map) : DoubleUint64Map :=
  let u := u.setArray 0 (convert (u.asArray 0))
  u.setArray 1 (convert (u.asArray 1))

end DoubleUint64Map

def toUint64Network (hostValue : Binary64) : UInt64 :=
  ((DoubleUint64Map.ofDouble hostValue).convertArray toUint32Network).asUint

def fromUint64Network (networkValue : UInt64) : Binary64 :=
  ((DoubleUint64Map.ofUint networkValue).convertArray toUint32Host).asDouble

/-! ## What the 16- and 32-bit conversions store -/

theorem toVectorOf_toUint16Network (v : UInt16) :
    toVectorOf 2 (toUint16Network v).toNat = beBytes 2 v.toNat := by
  rw [toUint16Network, toNat_htons, toVectorOf, leBytes_byteSwap]

theorem toVectorOf_toUint32Network (v : UInt32) :
    toVectorOf 4 (toUint32Network v).toNat = beBytes 4 v.toNat := by
  rw [toNat_toUint32Network, toVectorOf, leBytes_byteSwap]

theorem toVectorOf_floatToUint32Network (v : Binary32) :
    toVectorOf 4 (floatToUint32Network v).toNat = beBytes 4 v.bits.toNat :=
  toVectorOf_toUint32Network v.bits

/-! ## The halves of the union -/

namespace DoubleUint64Map

@[ext] theorem ext_mem {u u' : DoubleUint64Map} (h : u.mem = u'.mem) : u = u' := by
  cases u
  cases u'
  cases h
  rfl

/-- The memory of the two 32-bit numbers. -/
structure Halves (u : DoubleUint64Map) (a b : List UInt8) : Prop where
  mem_eq : u.mem = a ++ b
  first : a.length = 4
  second : b.length = 4

theorem exists_halves (u : DoubleUint64Map) : ∃ a b, u.Halves a b := by
  have hsize := u.size_eq
  refine ⟨u.mem.take 4, u.mem.drop 4, (List.take_append_drop 4 u.mem).symm, ?_, ?_⟩
  · rw [List.length_take]
    omega
  · rw [List.length_drop]
    omega

theorem toNat_ofNat_ofLEBytes {a : List UInt8} (ha : a.length = 4) :
    (UInt32.ofNat (ofLEBytes a)).toNat = ofLEBytes a := by
  have hlt : ofLEBytes a < 256 ^ 4 := by
    rw [← ha]
    exact ofLEBytes_lt a
  exact UInt32.toNat_ofNat_of_lt hlt

theorem ofUint_asUint (u : DoubleUint64Map) : ofUint u.asUint = u := by
  have hlt : ofLEBytes u.mem < 256 ^ 8 := by
    rw [← u.size_eq]
    exact ofLEBytes_lt u.mem
  have hval : u.asUint.toNat = ofLEBytes u.mem := UInt64.toNat_ofNat_of_lt hlt
  have hbytes : leBytes 8 (ofLEBytes u.mem) = u.mem := by
    rw [← u.size_eq]
    exact leBytes_ofLEBytes u.mem
  apply ext_mem
  show leBytes 8 u.asUint.toNat = u.mem
  rw [hval, hbytes]

theorem asUint_ofUint (v : UInt64) : (ofUint v).asUint = v := by
  have hv : v.toNat < 256 ^ 8 := v.toNat_lt
  show UInt64.ofNat (ofLEBytes (leBytes 8 v.toNat)) = v
  rw [ofLEBytes_leBytes, Nat.mod_eq_of_lt hv, UInt64.ofNat_toNat]

variable {u : DoubleUint64Map} {a b : List UInt8}

theorem Halves.asArray_zero (h : u.Halves a b) : u.asArray 0 = UInt32.ofNat (ofLEBytes a) := by
  have hslice : slice ([] ++ a ++ b) 0 4 = a := slice_append rfl h.first
  show UInt32.ofNat (ofLEBytes (slice u.mem 0 4)) = _
  rw [h.mem_eq]
  exact congrArg (fun l => UInt32.ofNat (ofLEBytes l)) hslice

theorem Halves.asArray_one (h : u.Halves a b) : u.asArray 1 = UInt32.ofNat (ofLEBytes b) := by
  have hslice : slice (a ++ b ++ []) 4 4 = b := slice_append h.first h.second
  rw [List.append_nil] at hslice
  show UInt32.ofNat (ofLEBytes (slice u.mem 4 4)) = _
  rw [h.mem_eq, hslice]

theorem Halves.setArray_zero (h : u.Halves a b) (v : UInt32) :
    (u.setArray 0 v).Halves (leBytes 4 v.toNat) b := by
  refine ⟨?_, length_leBytes 4 v.toNat, h.second⟩
  show copyTo u.mem 0 (leBytes 4 v.toNat) = _
  rw [h.mem_eq]
  exact copyTo_zero_append (by rw [h.first, length_leBytes])

theorem Halves.setArray_one (h : u.Halves a b) (v : UInt32) :
    (u.setArray 1 v).Halves a (leBytes 4 v.toNat) := by
  refine ⟨?_, h.first, length_leBytes 4 v.toNat⟩
  have hcopy : copyTo (a ++ b ++ []) 4 (leBytes 4 v.toNat) = a ++ leBytes 4 v.toNat ++ [] :=
    copyTo_append h.first (by rw [h.second, length_leBytes])
  rw [List.append_nil, List.append_nil] at hcopy
  show copyTo u.mem 4 (leBytes 4 v.toNat) = _
  rw [h.mem_eq, hcopy]

variable {convert convert' : UInt32 → UInt32}

/-- A half whose number is byte-swapped is reversed. -/
theorem leBytes_convert (hconvert : ∀ v, (convert v).toNat = byteSwap 4 v.toNat)
    (ha : a.length = 4) : leBytes 4 (convert (UInt32.ofNat (ofLEBytes a))).toNat = a.reverse := by
  have hbytes : leBytes 4 (ofLEBytes a) = a := by
    rw [← ha]
    exact leBytes_ofLEBytes a
  rw [hconvert, toNat_ofNat_ofLEBytes ha, leBytes_byteSwap, beBytes, hbytes]

theorem Halves.convert_zero (hconvert : ∀ v, (convert v).toNat = byteSwap 4 v.toNat)
    (h : u.Halves a b) : (u.setArray 0 (convert (u.asArray 0))).Halves a.reverse b := by
  have hbytes : leBytes 4 (convert (u.asArray 0)).toNat = a.reverse := by
    rw [h.asArray_zero, leBytes_convert hconvert h.first]
  have hset := h.setArray_zero (convert (u.asArray 0))
  rwa [hbytes] at hset

theorem Halves.convert_one (hconvert : ∀ v, (convert v).toNat = byteSwap 4 v.toNat)
    (h : u.Halves a b) : (u.setArray 1 (convert (u.asArray 1))).Halves a b.reverse := by
  have hbytes : leBytes 4 (convert (u.asArray 1)).toNat = b.reverse := by
    rw [h.asArray_one, leBytes_convert hconvert h.second]
  have hset := h.setArray_one (convert (u.asArray 1))
  rwa [hbytes] at hset

/-- Where each number is byte-swapped, each half is reversed in its place. -/
theorem Halves.convertArray (hconvert : ∀ v, (convert v).toNat = byteSwap 4 v.toNat)
    (h : u.Halves a b) : (u.convertArray convert).Halves a.reverse b.reverse :=
  (h.convert_zero hconvert).convert_one hconvert

/-- Conversions that swap the bytes undo each other. -/
theorem convertArray_convertArray (hconvert : ∀ v, (convert v).toNat = byteSwap 4 v.toNat)
    (hconvert' : ∀ v, (convert' v).toNat = byteSwap 4 v.toNat) (u : DoubleUint64Map) :
    (u.convertArray convert).convertArray convert' = u := by
  obtain ⟨a, b, h⟩ := u.exists_halves
  have hback := (h.convertArray hconvert).convertArray hconvert'
  rw [List.reverse_reverse, List.reverse_reverse] at hback
  apply ext_mem
  rw [hback.mem_eq, h.mem_eq]

end DoubleUint64Map

/-! ## The order of the bytes on the wire -/

open DoubleUint64Map

/-- The lower half of the pattern goes first, and each half most significant byte first. -/
theorem toVectorOf_toUint64Network (v : Binary64) :
    toVectorOf 8 (toUint64Network v).toNat =
      beBytes 4 v.bits.toNat ++ beBytes 4 (v.bits.toNat / 256 ^ 4) := by
  have hhalves : (ofDouble v).Halves (leBytes 4 v.bits.toNat)
      (leBytes 4 (v.bits.toNat / 256 ^ 4)) :=
    ⟨leBytes_add 4 4 v.bits.toNat, length_leBytes _ _, length_leBytes _ _⟩
  have hnetwork := congrArg mem (ofUint_asUint ((ofDouble v).convertArray toUint32Network))
  calc toVectorOf 8 (toUint64Network v).toNat
      = ((ofDouble v).convertArray toUint32Network).mem := hnetwork
    _ = beBytes 4 v.bits.toNat ++ beBytes 4 (v.bits.toNat / 256 ^ 4) :=
        (hhalves.convertArray toNat_toUint32Network).mem_eq

/-- The most significant byte goes first exactly where the halves are the same. -/
theorem bigEndian_toUint64Network_iff (v : Binary64) :
    toVectorOf 8 (toUint64Network v).toNat = beBytes 8 v.bits.toNat ↔
      v.bits.toNat / 2 ^ 32 = v.bits.toNat % 2 ^ 32 := by
  have hv : v.bits.toNat < 2 ^ 64 := v.bits.toNat_lt
  have hupper : v.bits.toNat / 2 ^ 32 < 2 ^ 32 := by omega
  rw [toVectorOf_toUint64Network, beBytes_add 4 4]
  constructor
  · intro h
    have hhalf := beBytes_inj.mp (List.append_inj_right h (by rw [length_beBytes, length_beBytes]))
    rw [← Nat.mod_eq_of_lt hupper]
    exact hhalf
  · intro h
    have hhalf : beBytes 4 v.bits.toNat = beBytes 4 (v.bits.toNat / 256 ^ 4) := by
      refine beBytes_inj.mpr ?_
      show v.bits.toNat % 2 ^ 32 = v.bits.toNat / 2 ^ 32 % 2 ^ 32
      rw [Nat.mod_eq_of_lt hupper, h]
    rw [hhalf]

/-- The way back undoes the way there. -/
theorem fromUint64Network_toUint64Network (v : Binary64) :
    fromUint64Network (toUint64Network v) = v := by
  unfold fromUint64Network toUint64Network
  rw [ofUint_asUint, convertArray_convertArray toNat_toUint32Network toNat_toUint32Host]
  show (⟨(ofUint v.bits).asUint⟩ : Binary64) = v
  rw [asUint_ofUint]

/-- A pattern is sent most significant byte first, and comes back, exactly where its halves are
    the same. -/
theorem uint64_network_iff (v : Binary64) :
    (toVectorOf 8 (toUint64Network v).toNat = beBytes 8 v.bits.toNat ∧
        fromUint64Network (toUint64Network v) = v) ↔
      v.bits.toNat / 2 ^ 32 = v.bits.toNat % 2 ^ 32 := by
  rw [← bigEndian_toUint64Network_iff]
  exact and_iff_left (fromUint64Network_toUint64Network v)

/-- The double 1.0: the bytes `3F F0 00 00` of its pattern come last. -/
theorem uint64_network_one :
    ¬ ∀ v : Binary64, toVectorOf 8 (toUint64Network v).toNat = beBytes 8 v.bits.toNat ∧
      fromUint64Network (toUint64Network v) = v := by
  intro h
  have hone := (h ⟨0x3FF0000000000000⟩).1
  rw [toVectorOf_toUint64Network] at hone
  exact absurd hone (by decide)

end Navtech.Utility
