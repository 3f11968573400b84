/-
  Buffers as lists: the slice of a range, and the element-by-element copies of the C++
  algorithms library.

  `copyTo` is `std::copy` into a buffer (first element first) and `copyBackward` is
  `std::copy_backward` within one buffer (last element first). Both are the loops the
  library runs, so an overlap of source and destination is part of the model;
  `copyBackward_eq` says that a move towards the end of the buffer is right even then.
-/
import Mathlib.Data.List.Basic
import Mathlib.Data.List.Induction
import Mathlib.Data.List.TakeDrop

namespace Buffer

variable {α : Type}

/-- The `n` elements from offset `off` on (fewer where the buffer ends). -/
def slice (buf : List α) (off n : Nat) : List α := (buf.drop off).take n

/-- `std::copy` of `src` to the place `off` of `buf`, one element after the other. -/
def copyTo (buf : List α) (off : Nat) : List α → List α
  | [] => buf
  | b :: src => copyTo (buf.set off b) (off + 1) src

/-- `std::copy_backward` of the `n` elements from `first` on to the range that ends at
    `last`, within one buffer: the last element is copied first. -/
def copyBackward (buf : List α) (first : Nat) : Nat → Nat → List α
  | 0, _ => buf
  | n + 1, last =>
    match buf[first + n]? with
    | some b => copyBackward (buf.set (last - 1) b) first n (last - 1)
    | none => buf

/-- `std::vector::resize`: new elements at the end are `fill`. -/
def resize (buf : List α) (n : Nat) (fill : α) : List α :=
  buf.take n ++ List.replicate (n - buf.length) fill

/-! ## Slices -/

theorem length_slice {buf : List α} {off n : Nat} (h : off + n ≤ buf.length) :
    (slice buf off n).length = n := by
  rw [slice, List.length_take, List.length_drop]
  omega

/-- The slice of the middle part of a buffer, given by the parts around it. -/
theorem slice_append {a b c : List α} {off n : Nat} (ha : a.length = off) (hb : b.length = n) :
    slice (a ++ b ++ c) off n = b := by
  rw [slice, List.append_assoc, ← ha, List.drop_left, ← hb, List.take_left]

/-! ## Copies -/

@[simp] theorem length_copyTo (buf : List α) (off : Nat) (src : List α) :
    (copyTo buf off src).length = buf.length := by
  induction src generalizing buf off with
  | nil => rfl
  | cons b src ih => rw [copyTo, ih, List.length_set]

/-- A copy replaces the elements of its destination and no others. -/
theorem copyTo_append {a old c src : List α} {off : Nat} (ha : a.length = off)
    (hold : old.length = src.length) :
    copyTo (a ++ old ++ c) off src = a ++ src ++ c := by
  induction src generalizing a old off with
  | nil =>
    rw [List.length_nil, List.length_eq_zero_iff] at hold
    rw [copyTo, hold]
  | cons b src ih =>
    obtain ⟨o, old', rfl⟩ := List.exists_cons_of_length_eq_add_one hold
    have hset : (a ++ (o :: old') ++ c).set off b = (a ++ [b]) ++ old' ++ c := by
      rw [List.append_assoc, List.set_append_right _ _ (by omega), ha, Nat.sub_self]
      simp
    rw [copyTo, hset, ih (by simp [ha]) (by simpa using hold)]
    simp

/-- A copy to the front of a buffer. -/
theorem copyTo_zero_append {old c src : List α} (hold : old.length = src.length) :
    copyTo (old ++ c) 0 src = src ++ c := by
  have h : copyTo ([] ++ old ++ c) 0 src = [] ++ src ++ c := copyTo_append rfl hold
  simpa using h

/-- Shifting `mid` to the end of the buffer over the gap that follows it. The source and the
    destination may overlap: `gap` may be shorter or longer than `mid`. What stays of the old
    elements is the first `gap.length` elements of `mid ++ gap`. -/
theorem copyBackward_eq (a mid gap c : List α) :
    copyBackward (a ++ mid ++ gap ++ c) a.length mid.length
        (a.length + mid.length + gap.length) =
      a ++ (mid ++ gap).take gap.length ++ mid ++ c := by
  induction mid using List.reverseRecOn generalizing gap c with
  | nil => simp [copyBackward]
  | append_singleton mid b ih =>
    have hget : (a ++ (mid ++ [b]) ++ gap ++ c)[a.length + mid.length]? = some b := by
      simp
    have hset : (a ++ (mid ++ [b]) ++ gap ++ c).set
        (a.length + (mid.length + 1) + gap.length - 1) b =
        a ++ mid ++ (b :: gap).take gap.length ++ (b :: c) := by
      cases gap using List.reverseRecOn with
      | nil => simp
      | append_singleton gap g =>
        have hi : a.length + (mid.length + 1) + (gap.length + 1) - 1 =
            (a ++ mid ++ [b] ++ gap).length := by simp; omega
        have hl : a ++ (mid ++ [b]) ++ (gap ++ [g]) ++ c =
            (a ++ mid ++ [b] ++ gap) ++ (g :: c) := by simp
        rw [List.length_append, List.length_singleton, hi, hl,
          List.set_append_right _ _ (Nat.le_refl _), Nat.sub_self]
        simp
    have hlen : ((b :: gap).take gap.length).length = gap.length := by simp
    have hlast : a.length + (mid.length + 1) + gap.length - 1 =
        a.length + mid.length + ((b :: gap).take gap.length).length := by rw [hlen]; omega
    rw [List.length_append, List.length_singleton, copyBackward, hget]
    simp only
    rw [hset, hlast, ih, hlen]
    have htake : (mid ++ (b :: gap).take gap.length).take gap.length =
        (mid ++ [b] ++ gap).take gap.length := by
      rw [List.append_assoc, List.singleton_append, List.take_append, List.take_append,
        List.take_take]
      congr 2
      omega
    rw [htake]
    simp

/-- Growing a buffer appends `fill`s. -/
theorem resize_grow (buf : List α) (k : Nat) (fill : α) :
    resize buf (buf.length + k) fill = buf ++ List.replicate k fill := by
  rw [resize, List.take_of_length_le (by omega), Nat.add_sub_cancel_left]

end Buffer
