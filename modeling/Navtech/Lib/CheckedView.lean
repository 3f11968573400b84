/-
  Reads of a byte buffer through a bare pointer, with the checks a pointer does not make.

  A pointer is an offset from the start of the buffer. `read` and `range` give what the machine
  reads when the places exist, and say otherwise which access is at fault: one that goes past
  the end, or a range whose end lies before its beginning. Code that reads through pointers is
  safe on a buffer if it returns a value here (`Succeeds`): for a sequence of reads that is a
  condition on the length of the buffer, put together by `succeeds_bind_of`.
-/
import Navtech.Lib.PackedRecord

namespace CheckedView

open ByteOrder Buffer PackedRecord

inductive Fault where
  /-- The `n` bytes at `off` are not all in the buffer. -/
  | outOfBounds (off n : Nat)
  /-- The range from `first` to `last` ends before it begins. -/
  | reversedRange (first last : Nat)
deriving DecidableEq, Repr

/-- An `n`-byte unsigned integer of a little-endian host. -/
def read (n : Nat) (mem : List UInt8) (off : Nat) : Except Fault Nat :=
  if off + n ≤ mem.length then .ok (load n mem off) else .error (.outOfBounds off n)

/-- A container built from the iterators `first` and `last`. -/
def range (mem : List UInt8) (first last : Nat) : Except Fault (List UInt8) :=
  if last < first then .error (.reversedRange first last)
  else if last ≤ mem.length then .ok (slice mem first (last - first))
  else .error (.outOfBounds first (last - first))

/-! ## Computations that succeed -/

section Succeeds

variable {ε α β : Type} {x : Except ε α}

/-- The computation returns a value. -/
def Succeeds (x : Except ε α) : Prop := ∃ a, x = .ok a

@[simp] theorem succeeds_ok (a : α) : Succeeds (.ok a : Except ε α) := ⟨a, rfl⟩

@[simp] theorem succeeds_pure (a : α) : Succeeds (pure a : Except ε α) := ⟨a, rfl⟩

theorem not_succeeds_error (e : ε) : ¬ Succeeds (.error e : Except ε α) := by
  intro h
  obtain ⟨a, ha⟩ := h
  cases ha

theorem bind_eq_ok {f : α → Except ε β} {b : β} :
    x >>= f = .ok b ↔ ∃ a, x = .ok a ∧ f a = .ok b := by
  constructor
  · intro h
    cases x with
    | ok a => exact ⟨a, rfl, h⟩
    | error e => cases h
  · intro h
    obtain ⟨a, rfl, ha⟩ := h
    exact ha

theorem map_eq_ok {f : α → β} {b : β} : x.map f = .ok b ↔ ∃ a, x = .ok a ∧ f a = b := by
  constructor
  · intro h
    cases x with
    | ok a => exact ⟨a, rfl, Except.ok.inj h⟩
    | error e => exact nomatch h
  · intro h
    obtain ⟨a, rfl, rfl⟩ := h
    rfl

theorem toOption_eq_some {a : α} : x.toOption = some a ↔ x = .ok a := by
  cases x with
  | error e => simp [Except.toOption]
  | ok a' => simp [Except.toOption]

@[simp] theorem succeeds_map (f : α → β) : Succeeds (x.map f) ↔ Succeeds x := by
  cases x with
  | ok a => exact iff_of_true ⟨f a, rfl⟩ ⟨a, rfl⟩
  | error e => exact iff_of_false (not_succeeds_error e) (not_succeeds_error e)

theorem mapError_eq_ok {δ : Type} {g : ε → δ} {a : α} : x.mapError g = .ok a ↔ x = .ok a := by
  cases x with
  | ok a' =>
    constructor
    · intro h
      exact congrArg Except.ok (Except.ok.inj h)
    · intro h
      exact congrArg Except.ok (Except.ok.inj h)
  | error e => exact iff_of_false (fun h => nomatch h) fun h => nomatch h

theorem succeeds_mapError {δ : Type} (g : ε → δ) : Succeeds (x.mapError g) ↔ Succeeds x :=
  exists_congr fun _ => mapError_eq_ok

/-- A computation whose second part succeeds under a condition that does not depend on the
    value of the first. -/
theorem succeeds_bind_of {f : α → Except ε β} {P : Prop}
    (hf : ∀ a, x = .ok a → (Succeeds (f a) ↔ P)) : Succeeds (x >>= f) ↔ Succeeds x ∧ P := by
  constructor
  · intro h
    obtain ⟨b, hb⟩ := h
    obtain ⟨a, ha, hfa⟩ := bind_eq_ok.mp hb
    exact ⟨⟨a, ha⟩, (hf a ha).mp ⟨b, hfa⟩⟩
  · intro h
    obtain ⟨⟨a, ha⟩, hp⟩ := h
    obtain ⟨b, hb⟩ := (hf a ha).mpr hp
    exact ⟨b, bind_eq_ok.mpr ⟨a, ha, hb⟩⟩

end Succeeds

/-! ## Reads and ranges -/

theorem succeeds_read {n : Nat} {mem : List UInt8} {off : Nat} :
    Succeeds (read n mem off) ↔ off + n ≤ mem.length := by
  unfold read
  split
  · exact iff_of_true (succeeds_ok _) ‹_›
  · exact iff_of_false (not_succeeds_error _) ‹_›

theorem succeeds_range {mem : List UInt8} {first last : Nat} :
    Succeeds (range mem first last) ↔ first ≤ last ∧ last ≤ mem.length := by
  unfold range
  split
  · exact iff_of_false (not_succeeds_error _) (by omega)
  · split
    · exact iff_of_true (succeeds_ok _) (by omega)
    · exact iff_of_false (not_succeeds_error _) (by omega)

theorem read_of_le {n : Nat} {mem : List UInt8} {off : Nat} (h : off + n ≤ mem.length) :
    read n mem off = .ok (load n mem off) := if_pos h

/-- A range given by the parts of the buffer. -/
theorem range_append {pre mid post : List UInt8} {first last : Nat} (hfirst : first = pre.length)
    (hlast : last = pre.length + mid.length) : range (pre ++ mid ++ post) first last = .ok mid := by
  subst hfirst hlast
  unfold range
  rw [if_neg (by omega), if_pos (by simp), Nat.add_sub_cancel_left, slice_append rfl rfl]

/-- A range from the start. -/
theorem range_zero_eq_ok {mem v : List UInt8} {last : Nat} :
    range mem 0 last = .ok v ↔ last ≤ mem.length ∧ v = mem.take last := by
  unfold range
  rw [if_neg (Nat.not_lt_zero last), Nat.sub_zero]
  split
  · rename_i hlast
    rw [Except.ok.injEq, and_iff_right hlast]
    exact eq_comm
  · rename_i hlast
    exact iff_of_false (fun h => nomatch h) fun h => hlast h.1

/-- A range that is shorter than the bytes wanted does not give them. -/
theorem range_ne {mem wanted : List UInt8} {first last : Nat} (h : last - first < wanted.length) :
    range mem first last ≠ .ok wanted := by
  intro heq
  unfold range at heq
  split at heq
  · cases heq
  · split at heq
    · have hlen := congrArg List.length (Except.ok.inj heq)
      unfold slice at hlen
      rw [List.length_take] at hlen
      omega
    · cases heq

/-- Field `i` of a packed record, as the host reads it: with its bytes swapped. -/
theorem read_packed {l : Layout} {vs : List Nat} {i w v : Nat} (pre post : List UInt8)
    (hw : l[i]? = some w) (hv : vs[i]? = some v) :
    read w (pre ++ packed l vs ++ post) (pre.length + fieldOffset l i) = .ok (byteSwap w v) := by
  obtain ⟨a, b, ha, hp, -⟩ := packed_split hw hv
  have hle : pre.length + fieldOffset l i + w ≤ (pre ++ packed l vs ++ post).length := by
    rw [hp, ← ha]
    simp only [List.length_append, length_beBytes]
    omega
  rw [read_of_le hle, load, slice_packed pre post hw hv]
  rfl

end CheckedView
