/-
  Fixed-width byte strings of natural numbers: the little-endian and big-endian images of a
  value at a width, their values, and the byte swap that turns one image into the other.

  A width is a number of bytes, so one set of lemmas serves the 16-, 32- and 64-bit
  conversions of a host. `byteSwap n v` is the value a little-endian host reads back when
  the `n` bytes of `v` are stored most significant first (`leBytes_byteSwap`); it is its
  own inverse below `256 ^ n` (`byteSwap_byteSwap`).
-/
import Mathlib.Data.List.Basic
import Mathlib.Tactic.Ring

namespace ByteOrder

/-- The `n` low-order bytes of `v`, least significant first. -/
def leBytes : Nat → Nat → List UInt8
  | 0, _ => []
  | n + 1, v => UInt8.ofNat v :: leBytes n (v / 256)

/-- The value of a byte string read least significant first. -/
def ofLEBytes : List UInt8 → Nat
  | [] => 0
  | b :: bs => b.toNat + 256 * ofLEBytes bs

/-- The `n` low-order bytes of `v`, most significant first. -/
def beBytes (n v : Nat) : List UInt8 := (leBytes n v).reverse

/-- The value of a byte string read most significant first. -/
def ofBEBytes (bs : List UInt8) : Nat := ofLEBytes bs.reverse

/-- The `n`-byte value whose bytes are those of `v` in the opposite order. -/
def byteSwap (n v : Nat) : Nat := ofLEBytes (beBytes n v)

@[simp] theorem length_leBytes (n v : Nat) : (leBytes n v).length = n := by
  induction n generalizing v with
  | zero => rfl
  | succ n ih => rw [leBytes, List.length_cons, ih]

@[simp] theorem length_beBytes (n v : Nat) : (beBytes n v).length = n := by
  rw [beBytes, List.length_reverse, length_leBytes]

theorem ofLEBytes_leBytes (n v : Nat) : ofLEBytes (leBytes n v) = v % 256 ^ n := by
  induction n generalizing v with
  | zero => rw [leBytes, ofLEBytes, pow_zero, Nat.mod_one]
  | succ n ih =>
    have hb : (UInt8.ofNat v).toNat = v % 256 := by simp
    rw [leBytes, ofLEBytes, ih, hb, pow_succ, Nat.mul_comm (256 ^ n) 256, Nat.mod_mul]

theorem ofLEBytes_lt (bs : List UInt8) : ofLEBytes bs < 256 ^ bs.length := by
  induction bs with
  | nil => simp [ofLEBytes]
  | cons b bs ih =>
    have hb : b.toNat < 256 := b.toNat_lt
    rw [ofLEBytes, List.length_cons, pow_succ]
    omega

/-- A byte string is recovered from its value and its length. -/
theorem leBytes_ofLEBytes (bs : List UInt8) : leBytes bs.length (ofLEBytes bs) = bs := by
  induction bs with
  | nil => rfl
  | cons b bs ih =>
    have hb : b.toNat < 256 := b.toNat_lt
    have hdiv : (b.toNat + 256 * ofLEBytes bs) / 256 = ofLEBytes bs := by omega
    have hlow : UInt8.ofNat (b.toNat + 256 * ofLEBytes bs) = b := by
      apply UInt8.toNat_inj.mp
      rw [UInt8.toNat_ofNat']
      omega
    rw [List.length_cons, ofLEBytes, leBytes, hdiv, ih, hlow]

theorem beBytes_ofBEBytes (bs : List UInt8) : beBytes bs.length (ofBEBytes bs) = bs := by
  have h := leBytes_ofLEBytes bs.reverse
  rw [List.length_reverse] at h
  rw [beBytes, ofBEBytes, h, List.reverse_reverse]

theorem ofBEBytes_beBytes (n v : Nat) : ofBEBytes (beBytes n v) = v % 256 ^ n := by
  rw [ofBEBytes, beBytes, List.reverse_reverse, ofLEBytes_leBytes]

theorem ofBEBytes_lt (bs : List UInt8) : ofBEBytes bs < 256 ^ bs.length := by
  have h := ofLEBytes_lt bs.reverse
  rwa [List.length_reverse] at h

theorem leBytes_mod (n v : Nat) : leBytes n (v % 256 ^ n) = leBytes n v := by
  have h := leBytes_ofLEBytes (leBytes n v)
  rwa [length_leBytes, ofLEBytes_leBytes] at h

theorem leBytes_add (m n v : Nat) :
    leBytes (m + n) v = leBytes m v ++ leBytes n (v / 256 ^ m) := by
  induction m generalizing v with
  | zero => simp [leBytes]
  | succ m ih =>
    rw [Nat.succ_add, leBytes, leBytes, ih, Nat.div_div_eq_div_mul, ← Nat.pow_succ']
    rfl

theorem ofLEBytes_append (a b : List UInt8) :
    ofLEBytes (a ++ b) = ofLEBytes a + 256 ^ a.length * ofLEBytes b := by
  induction a with
  | nil => simp [ofLEBytes]
  | cons x a ih =>
    rw [List.cons_append, ofLEBytes, ofLEBytes, ih, List.length_cons]
    ring

@[simp] theorem leBytes_zero (n : Nat) : leBytes n 0 = List.replicate n 0 := by
  induction n with
  | zero => rfl
  | succ n ih =>
    rw [leBytes, Nat.zero_div, ih, List.replicate_succ]
    rfl

@[simp] theorem beBytes_zero (n : Nat) : beBytes n 0 = List.replicate n 0 := by
  rw [beBytes, leBytes_zero, List.reverse_replicate]

/-- The image of a value in two parts: the upper part comes first. -/
theorem beBytes_add (m n v : Nat) :
    beBytes (m + n) v = beBytes n (v / 256 ^ m) ++ beBytes m v := by
  rw [beBytes, leBytes_add, List.reverse_append]
  rfl

/-- Values with one image agree in its bytes. -/
theorem beBytes_inj {n v w : Nat} : beBytes n v = beBytes n w ↔ v % 256 ^ n = w % 256 ^ n := by
  constructor
  · intro h
    rw [← ofBEBytes_beBytes, h, ofBEBytes_beBytes]
  · intro h
    rw [beBytes, ← leBytes_mod, h, leBytes_mod]
    rfl

/-! ## The byte swap -/

theorem byteSwap_lt (n v : Nat) : byteSwap n v < 256 ^ n := by
  have h := ofLEBytes_lt (beBytes n v)
  rwa [length_beBytes] at h

/-- Storing the swapped value least significant first stores the value most significant
    first. -/
theorem leBytes_byteSwap (n v : Nat) : leBytes n (byteSwap n v) = beBytes n v := by
  have h := leBytes_ofLEBytes (beBytes n v)
  rwa [length_beBytes] at h

theorem beBytes_byteSwap (n v : Nat) : beBytes n (byteSwap n v) = leBytes n v := by
  rw [beBytes, leBytes_byteSwap, beBytes, List.reverse_reverse]

/-- The swap does not look beyond its bytes. -/
theorem byteSwap_mod (n v : Nat) : byteSwap n (v % 256 ^ n) = byteSwap n v := by
  rw [byteSwap, beBytes, leBytes_mod]
  rfl

/-- The swap of a value in two parts: each part is swapped, and they change places. -/
theorem byteSwap_add (m n v : Nat) :
    byteSwap (m + n) v = byteSwap n (v / 256 ^ m) + 256 ^ n * byteSwap m v := by
  simp [byteSwap, beBytes, leBytes_add, ofLEBytes_append]

/-- Byte strings of one length with one value are one. -/
theorem ofLEBytes_inj {a b : List UInt8} (hlen : a.length = b.length) :
    ofLEBytes a = ofLEBytes b ↔ a = b := by
  refine ⟨fun h => ?_, congrArg ofLEBytes⟩
  rw [← leBytes_ofLEBytes a, ← leBytes_ofLEBytes b, h, hlen]

/-- The swapped value of a byte string is the value of the bytes in the opposite order. -/
theorem byteSwap_ofLEBytes (bs : List UInt8) :
    byteSwap bs.length (ofLEBytes bs) = ofLEBytes bs.reverse := by
  rw [byteSwap, beBytes, leBytes_ofLEBytes]

theorem byteSwap_byteSwap (n v : Nat) : byteSwap n (byteSwap n v) = v % 256 ^ n := by
  rw [byteSwap, beBytes_byteSwap, ofLEBytes_leBytes]

end ByteOrder
