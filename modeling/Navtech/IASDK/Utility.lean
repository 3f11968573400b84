/-
  The byte swaps of `csharp/IASDK/Networking/Utility.cs` and `Slice` of
  `csharp/IASDK/Extensions/ArrayExtensions.cs`.

  The swaps shift and mask. Each gives the value with its bytes in the opposite order
  (`toNat_swapUInt16`, `toNat_swapUInt32`, `toUInt32_swapInt32`), as `htons` and `htonl` do on
  a little-endian host. `BitConverter` reads and writes in host order.
-/
import Navtech.Lib.ManagedArray
import Navtech.Utility.NetConversion

namespace Navtech.IASDK

open ByteOrder ManagedArray Navtech.Utility

/-! ## Swaps -/

def swapUInt16 (value : UInt16) : UInt16 := ((value &&& 0xff) <<< 8) ||| ((value >>> 8) &&& 0xff)

def swapUInt32 (value : UInt32) : UInt32 :=
  ((swapUInt16 (value &&& 0xffff).toUInt16).toUInt32 <<< 0x10) |||
    (swapUInt16 ((value >>> 0x10) &&& 0xffff).toUInt16).toUInt32

def swapInt32 (value : Int32) : Int32 :=
  ((swapUInt16 (value &&& 0xffff).toUInt32.toUInt16).toUInt32.toInt32 <<< 0x10) |||
    (swapUInt16 ((value >>> 0x10) &&& 0xffff).toUInt32.toUInt16).toUInt32.toInt32

theorem toNat_swapUInt16 (v : UInt16) : (swapUInt16 v).toNat = byteSwap 2 v.toNat := by
  have hv : v.toNat < 65536 := v.toNat_lt
  have hlow : v.toNat &&& 255 = v.toNat % 256 := Nat.and_two_pow_sub_one_eq_mod v.toNat 8
  have hhigh : v.toNat / 256 &&& 255 = v.toNat / 256 % 256 :=
    Nat.and_two_pow_sub_one_eq_mod (v.toNat / 256) 8
  have hor := Nat.shiftLeft_add_eq_or_of_lt (i := 8) (b := v.toNat / 256 % 256) (by omega)
    (v.toNat % 256)
  simp only [swapUInt16, UInt16.toNat_or, UInt16.toNat_shiftLeft, UInt16.toNat_and,
    UInt16.toNat_shiftRight]
  simp [hlow, Nat.shiftRight_eq_div_pow, hhigh]
  rw [Nat.mod_eq_of_lt, ← hor]
  · simp [byteSwap, beBytes, leBytes, ofLEBytes, Nat.shiftLeft_eq]
    omega
  · rw [Nat.shiftLeft_eq]
    omega

theorem toNat_swapUInt32 (v : UInt32) : (swapUInt32 v).toNat = byteSwap 4 v.toNat := by
  have hv : v.toNat < 2 ^ 32 := v.toNat_lt
  have hand : v.toNat &&& 65535 = v.toNat % 65536 := Nat.and_two_pow_sub_one_eq_mod v.toNat 16
  have hand' : v.toNat / 65536 &&& 65535 = v.toNat / 65536 % 65536 :=
    Nat.and_two_pow_sub_one_eq_mod (v.toNat / 65536) 16
  have hlow : byteSwap 2 (v.toNat % 65536) = byteSwap 2 v.toNat := byteSwap_mod 2 v.toNat
  have hhigh : byteSwap 2 (v.toNat / 65536 % 65536) = byteSwap 2 (v.toNat / 65536) :=
    byteSwap_mod 2 (v.toNat / 65536)
  have hlt := byteSwap_lt 2 v.toNat
  have hor := Nat.shiftLeft_add_eq_or_of_lt (i := 16) (byteSwap_lt 2 (v.toNat / 65536))
    (byteSwap 2 v.toNat)
  have hsplit : byteSwap 4 v.toNat = byteSwap 2 (v.toNat / 65536) + 65536 * byteSwap 2 v.toNat :=
    byteSwap_add 2 2 v.toNat
  simp only [swapUInt32, UInt32.toNat_or, UInt32.toNat_shiftLeft, UInt16.toNat_toUInt32,
    toNat_swapUInt16, UInt32.toNat_toUInt16, UInt32.toNat_and, UInt32.toNat_shiftRight]
  simp [hand, Nat.shiftRight_eq_div_pow, hand', hlow, hhigh]
  rw [Nat.mod_eq_of_lt, ← hor, hsplit, Nat.shiftLeft_eq]
  · omega
  · rw [Nat.shiftLeft_eq]
    omega

theorem swapUInt16_eq_htons (v : UInt16) : swapUInt16 v = htons v :=
  UInt16.toNat_inj.mp ((toNat_swapUInt16 v).trans (toNat_htons v).symm)

theorem swapUInt32_eq_htonl (v : UInt32) : swapUInt32 v = htonl v :=
  UInt32.toNat_inj.mp ((toNat_swapUInt32 v).trans (toNat_htonl v).symm)

/-- The sign does not get into the lower half. -/
theorem toUInt16_shiftRight (v : Int32) :
    (v >>> 0x10).toUInt32.toUInt16 = (v.toUInt32 >>> 0x10).toUInt16 := by
  apply UInt16.toBitVec_inj.mp
  simp only [UInt32.toBitVec_toUInt16, Int32.toBitVec_toUInt32, UInt32.toBitVec_shiftRight]
  simp
  ext i hi
  simp [BitVec.getLsbD_sshiftRight, show ¬ 32 ≤ i by omega, show 16 + i < 32 by omega]

theorem toUInt32_swapInt32 (v : Int32) : (swapInt32 v).toUInt32 = swapUInt32 v.toUInt32 := by
  have hmask : (Int32.toUInt32 65535).toUInt16 = 65535 := by decide
  apply UInt32.toBitVec_inj.mp
  simp [swapInt32, swapUInt32, hmask, toUInt16_shiftRight]

example : swapUInt32 0x01020304 = 0x04030201 := by decide

/-! ## BitConverter -/

/-- `BitConverter.GetBytes(int)`. -/
def getBytes (value : Int32) : List UInt8 := leBytes 4 value.toUInt32.toNat

/-- `BitConverter.GetBytes(uint)`. -/
def getBytesUInt32 (value : UInt32) : List UInt8 := leBytes 4 value.toNat

/-- `BitConverter.GetBytes(ushort)`. -/
def getBytesUInt16 (value : UInt16) : List UInt8 := leBytes 2 value.toNat

/-- `BitConverter.ToInt32(value, 0)` for an array of four bytes. -/
def toInt32 (value : List UInt8) : Int32 := (UInt32.ofNat (ofLEBytes value)).toInt32

/-- `BitConverter.ToUInt32(value, 0)` for an array of four bytes. -/
def toUInt32 (value : List UInt8) : UInt32 := UInt32.ofNat (ofLEBytes value)

/-- `BitConverter.ToUInt16(value, 0)` for an array of two bytes. -/
def toUInt16 (value : List UInt8) : UInt16 := UInt16.ofNat (ofLEBytes value)

@[simp] theorem length_getBytes (value : Int32) : (getBytes value).length = 4 :=
  length_leBytes 4 value.toUInt32.toNat

/-- The bytes of a swapped value are those of the value, most significant first. -/
theorem getBytes_swapInt32 (v : Int32) : getBytes (swapInt32 v) = beBytes 4 v.toUInt32.toNat := by
  rw [getBytes, toUInt32_swapInt32, toNat_swapUInt32, leBytes_byteSwap]

/-- The signed number that a word stands for. -/
theorem toInt_toInt32 (v : UInt32) :
    v.toInt32.toInt = if v.toNat < 2147483648 then (v.toNat : Int) else v.toNat - 4294967296 := by
  have hcond := BitVec.toInt_eq_toNat_cond v.toBitVec
  have hlt : v.toNat < 4294967296 := v.toNat_lt
  rw [← Int32.toInt_toBitVec, UInt32.toBitVec_toInt32, hcond, UInt32.toNat_toBitVec]
  norm_num
  split <;> split <;> omega

/-- A signed number that is read most significant byte first. -/
theorem swapInt32_toInt32 (v : UInt32) :
    swapInt32 (toInt32 (beBytes 4 v.toNat)) = v.toInt32 := by
  have hword : (swapInt32 (toInt32 (beBytes 4 v.toNat))).toUInt32 = v := by
    rw [toUInt32_swapInt32, swapUInt32_eq_htonl, toInt32]
    exact ntohl_htonl v
  rw [← Int32.toInt32_toUInt32 (swapInt32 _), hword]

theorem swapUInt32_toUInt32 (v : UInt32) : swapUInt32 (toUInt32 (beBytes 4 v.toNat)) = v := by
  rw [swapUInt32_eq_htonl]
  exact ntohl_htonl v

theorem swapUInt16_toUInt16 (v : UInt16) : swapUInt16 (toUInt16 (beBytes 2 v.toNat)) = v := by
  rw [swapUInt16_eq_htons]
  exact ntohs_htons v

/-! ## Slices -/

/-- `source.Slice(start, end)`. -/
def slice (ρ : Runtime) (source : List UInt8) (start stop : Int) :
    Except Exception (List UInt8) := do
  let stop := if stop < 0 then source.length - start - stop - 1 else stop
  let res ← newArray ρ (stop - start)
  blockCopy source start res 0 (stop - start)

/-- A slice between places of the array. -/
theorem slice_append {ρ : Runtime} {a b c : List UInt8} {i j : Int}
    (hstart : i = a.length) (hstop : j = a.length + b.length)
    (hb : b.length ≤ ρ.maxLength) : slice ρ (a ++ b ++ c) i j = .ok b := by
  subst hstart hstop
  have hlen : (a.length + b.length : Int) - a.length = b.length := by omega
  simp only [slice]
  rw [if_neg (by omega), hlen, newArray_of_le hb, ok_bind]
  have hcopy : blockCopy (a ++ b ++ c) a.length ([] ++ List.replicate b.length 0 ++ []) 0 b.length =
      .ok ([] ++ b ++ []) := blockCopy_append rfl rfl rfl (by simp)
  simpa using hcopy

/-- A slice that runs past the end of the array fails. -/
theorem slice_argument {ρ : Runtime} {source : List UInt8} {i j : Nat}
    (hle : i ≤ j) (hpast : source.length < j) (hroom : j - i ≤ ρ.maxLength) :
    slice ρ source i j = .error .argument := by
  obtain ⟨len, rfl⟩ := Nat.exists_eq_add_of_le hle
  have hlen : ((i + len : Nat) : Int) - i = len := by omega
  simp only [slice]
  rw [if_neg (by omega), hlen, newArray_of_le (by omega), ok_bind]
  exact blockCopy_argument hpast

end Navtech.IASDK
