/-
  Byte arrays of a managed runtime, with the exceptions that the runtime throws.

  `newArray` and `blockCopy` take signed numbers, as the runtime does, and check them. How
  long an array may be depends on the machine (`Runtime`). The lemmas give the result of a
  call whose arguments are in order: a fresh array is zero, and a copy between places that
  exist replaces the elements of its destination.
-/
import Mathlib.Algebra.Group.Nat.Defs
import Navtech.Lib.Buffer

namespace ManagedArray

open Buffer

inductive Exception where
  | overflow
  | outOfMemory
  | argument
  | argumentOutOfRange
deriving DecidableEq, Repr

@[simp] theorem ok_bind {α β : Type} (a : α) (f : α → Except Exception β) :
    (Except.ok a >>= f) = f a := rfl

@[simp] theorem error_bind {α β : Type} (e : Exception) (f : α → Except Exception β) :
    (Except.error e >>= f) = Except.error e := rfl

@[simp] theorem pure_eq_ok {α : Type} (a : α) : (pure a : Except Exception α) = .ok a := rfl

theorem bind_eq_ok {α β : Type} {x : Except Exception α} {f : α → Except Exception β} {b : β} :
    x >>= f = .ok b ↔ ∃ a, x = .ok a ∧ f a = .ok b := by
  cases x <;> simp

/-- The longest array that can be had: some are always there, and a length is a 32-bit `int`. -/
structure Runtime where
  maxLength : Nat
  le_maxLength : 2 ^ 20 ≤ maxLength
  maxLength_lt : maxLength < 2 ^ 31

/-- Every length that is a 32-bit `int`. -/
def Runtime.unlimited : Runtime := ⟨2 ^ 31 - 1, by decide, by decide⟩

/-- `new byte[n]`. -/
def newArray (ρ : Runtime) (n : Int) : Except Exception (List UInt8) :=
  if n < 0 then .error .overflow
  else if ρ.maxLength < n.toNat then .error .outOfMemory
  else .ok (List.replicate n.toNat 0)

/-- `Buffer.BlockCopy`, from one array to another. -/
def blockCopy (src : List UInt8) (srcOffset : Int) (dst : List UInt8) (dstOffset count : Int) :
    Except Exception (List UInt8) :=
  if srcOffset < 0 ∨ dstOffset < 0 ∨ count < 0 then .error .argumentOutOfRange
  else if src.length < srcOffset + count ∨ dst.length < dstOffset + count then .error .argument
  else .ok (copyTo dst dstOffset.toNat (slice src srcOffset.toNat count.toNat))

theorem newArray_of_le {ρ : Runtime} {n : Nat} (h : n ≤ ρ.maxLength) :
    newArray ρ n = .ok (List.replicate n 0) := by
  unfold newArray
  rw [if_neg (by omega), Int.toNat_natCast, if_neg (by omega)]

theorem newArray_eq_ok {ρ : Runtime} {n : Int} {a : List UInt8} :
    newArray ρ n = .ok a ↔ 0 ≤ n ∧ n ≤ ρ.maxLength ∧ a = List.replicate n.toNat 0 := by
  unfold newArray
  split
  · simp; omega
  split
  · simp; omega
  · rw [Except.ok.injEq]
    refine ⟨fun h => ⟨by omega, by omega, h.symm⟩, fun h => h.2.2.symm⟩

/-- Source and destination given by their parts. -/
theorem blockCopy_append {a b c d e f : List UInt8} {i j n : Int}
    (ha : i = a.length) (hb : n = b.length) (hd : j = d.length)
    (he : e.length = b.length) :
    blockCopy (a ++ b ++ c) i (d ++ e ++ f) j n = .ok (d ++ b ++ f) := by
  subst ha hb hd
  unfold blockCopy
  rw [if_neg (by omega), if_neg (by simp; omega)]
  simp only [Int.toNat_natCast]
  rw [slice_append rfl rfl, copyTo_append rfl he]

/-- A copy does not change the length of its destination. -/
theorem length_of_blockCopy {src dst out : List UInt8} {srcOffset dstOffset count : Int}
    (h : blockCopy src srcOffset dst dstOffset count = .ok out) : out.length = dst.length := by
  unfold blockCopy at h
  split at h
  · cases h
  split at h
  · cases h
  · rw [← Except.ok.inj h, length_copyTo]

/-- A copy that runs past the end of its source fails. -/
theorem blockCopy_argument {src dst : List UInt8} {srcOffset dstOffset count : Nat}
    (h : src.length < srcOffset + count) :
    blockCopy src srcOffset dst dstOffset count = .error .argument := by
  unfold blockCopy
  rw [if_neg (by omega), if_pos (Or.inl (by omega))]

end ManagedArray
