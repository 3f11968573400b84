/-
  Byte-order conversions of `cpp_17/utility/net_conversion.cpp`, on a little-endian host.

  A `float` is its 32-bit pattern (`Binary32`), and a `double` its 64-bit one: the conversions
  move patterns between byte orders through a union and never compute with the number. `htons`,
  `ntohs`, `htonl` and `ntohl` swap the bytes, as they do on a little-endian host; each is its
  own inverse. `to_vector` and `from_vector_to` copy what is in memory.
-/
import Navtech.Lib.ByteOrder

namespace Navtech.Utility

open ByteOrder

/-- A C++ `float`, as the 32-bit pattern it is stored in. -/
structure Binary32 where
  bits : UInt32
deriving DecidableEq, Repr

/-- A C++ `double`, as the 64-bit pattern it is stored in. -/
structure Binary64 where
  bits : UInt64
deriving DecidableEq, Repr

def htons (hostshort : UInt16) : UInt16 := UInt16.ofNat (byteSwap 2 hostshort.toNat)

def ntohs (netshort : UInt16) : UInt16 := UInt16.ofNat (byteSwap 2 netshort.toNat)

def htonl (hostlong : UInt32) : UInt32 := UInt32.ofNat (byteSwap 4 hostlong.toNat)

def ntohl (netlong : UInt32) : UInt32 := UInt32.ofNat (byteSwap 4 netlong.toNat)

def toUint16Network (hostValue : UInt16) : UInt16 := htons hostValue

def toUint16Host (networkValue : UInt16) : UInt16 := ntohs networkValue

/-- `to_uint32_network(std::uint32_t)`. -/
def toUint32Network (hostValue : UInt32) : UInt32 := htonl hostValue

/-- `to_uint32_host(std::uint32_t)`. -/
def toUint32Host (networkValue : UInt32) : UInt32 := ntohl networkValue

/-- `to_uint32_network(float)`: the pattern, not the number, is converted. -/
def floatToUint32Network (hostValue : Binary32) : UInt32 := htonl hostValue.bits

def fromUint32Network (networkValue : UInt32) : Binary32 := ⟨ntohl networkValue⟩

/-- `to_uint64_host(double)`: the pattern in the order of the host. -/
def toUint64Host (hostValue : Binary64) : UInt64 := hostValue.bits

def fromUint64Host (hostValue : UInt64) : Binary64 := ⟨hostValue⟩

/-- `to_vector`, of a number with `n` bytes. -/
def toVectorOf (n value : Nat) : List UInt8 := leBytes n value

/-- `from_vector_to`, a number with `n` bytes. -/
def fromVectorTo (n : Nat) (vec : List UInt8) : Option Nat :=
  if vec.length < n then none else some (ofLEBytes (vec.take n))

/-- `to_byte_array(std::uint32_t)`. -/
def toByteArray (value : UInt32) : List UInt8 := leBytes 4 value.toNat

/-- `from_byte_array(const Byte_array_4&)`. -/
def fromByteArray (value : List UInt8) : UInt32 := UInt32.ofNat (ofLEBytes value)

/-- Two bytes are the image of a number, most significant byte first. -/
theorem exists_uint16_of_length {l : List UInt8} (h : l.length = 2) :
    ∃ v : UInt16, l = beBytes 2 v.toNat := by
  have hlt : ofBEBytes l < 2 ^ 16 := by simpa [h] using ofBEBytes_lt l
  have hv : (UInt16.ofNat (ofBEBytes l)).toNat = ofBEBytes l := UInt16.toNat_ofNat_of_lt hlt
  refine ⟨UInt16.ofNat (ofBEBytes l), ?_⟩
  rw [hv, ← h, beBytes_ofBEBytes]

/-- Four bytes are the image of a number, most significant byte first. -/
theorem exists_uint32_of_length {l : List UInt8} (h : l.length = 4) :
    ∃ v : UInt32, l = beBytes 4 v.toNat := by
  have hlt : ofBEBytes l < 2 ^ 32 := by simpa [h] using ofBEBytes_lt l
  have hv : (UInt32.ofNat (ofBEBytes l)).toNat = ofBEBytes l := UInt32.toNat_ofNat_of_lt hlt
  refine ⟨UInt32.ofNat (ofBEBytes l), ?_⟩
  rw [hv, ← h, beBytes_ofBEBytes]

/-! ## The conversions swap bytes -/

@[simp] theorem toNat_htons (v : UInt16) : (htons v).toNat = byteSwap 2 v.toNat :=
  UInt16.toNat_ofNat_of_lt (byteSwap_lt 2 v.toNat)

@[simp] theorem toNat_ntohs (v : UInt16) : (ntohs v).toNat = byteSwap 2 v.toNat :=
  UInt16.toNat_ofNat_of_lt (byteSwap_lt 2 v.toNat)

@[simp] theorem toNat_htonl (v : UInt32) : (htonl v).toNat = byteSwap 4 v.toNat :=
  UInt32.toNat_ofNat_of_lt (byteSwap_lt 4 v.toNat)

@[simp] theorem toNat_ntohl (v : UInt32) : (ntohl v).toNat = byteSwap 4 v.toNat :=
  UInt32.toNat_ofNat_of_lt (byteSwap_lt 4 v.toNat)

theorem toNat_toUint32Network (v : UInt32) : (toUint32Network v).toNat = byteSwap 4 v.toNat :=
  toNat_htonl v

theorem toNat_toUint32Host (v : UInt32) : (toUint32Host v).toNat = byteSwap 4 v.toNat :=
  toNat_ntohl v

@[simp] theorem ntohs_htons (v : UInt16) : ntohs (htons v) = v := by
  have hv : v.toNat < 256 ^ 2 := v.toNat_lt
  apply UInt16.toNat_inj.mp
  rw [toNat_ntohs, toNat_htons, byteSwap_byteSwap, Nat.mod_eq_of_lt hv]

@[simp] theorem ntohl_htonl (v : UInt32) : ntohl (htonl v) = v := by
  have hv : v.toNat < 256 ^ 4 := v.toNat_lt
  apply UInt32.toNat_inj.mp
  rw [toNat_ntohl, toNat_htonl, byteSwap_byteSwap, Nat.mod_eq_of_lt hv]

@[simp] theorem toUint16Host_toUint16Network (v : UInt16) :
    toUint16Host (toUint16Network v) = v := ntohs_htons v

@[simp] theorem toUint32Host_toUint32Network (v : UInt32) :
    toUint32Host (toUint32Network v) = v := ntohl_htonl v

@[simp] theorem fromUint32Network_floatToUint32Network (v : Binary32) :
    fromUint32Network (floatToUint32Network v) = v := by
  rw [fromUint32Network, floatToUint32Network, ntohl_htonl]

@[simp] theorem length_toByteArray (v : UInt32) : (toByteArray v).length = 4 :=
  length_leBytes 4 v.toNat

@[simp] theorem fromByteArray_toByteArray (v : UInt32) : fromByteArray (toByteArray v) = v := by
  have hv : v.toNat < 256 ^ 4 := v.toNat_lt
  rw [fromByteArray, toByteArray, ofLEBytes_leBytes, Nat.mod_eq_of_lt hv, UInt32.ofNat_toNat]

@[simp] theorem fromUint64Host_toUint64Host (v : Binary64) :
    fromUint64Host (toUint64Host v) = v := rfl

theorem fromVectorTo_toVectorOf (n v : Nat) :
    fromVectorTo n (toVectorOf n v) = some (v % 256 ^ n) := by
  have hlen : (toVectorOf n v).length = n := length_leBytes n v
  rw [fromVectorTo, if_neg (by omega), List.take_of_length_le hlen.le, toVectorOf,
    ofLEBytes_leBytes]

example : htonl 0x01020304 = 0x04030201 := by decide

end Navtech.Utility
