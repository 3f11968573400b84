/-
  Records packed to the byte and overlaid on a byte buffer of a little-endian host.

  A record type is a `Layout`, the widths of its fields in declaration order; its values,
  stored most significant byte first, make the image `packed`. `load` and `store` are the
  host's own accesses to an integer member. Storing a byte-swapped value into field `i`
  replaces value `i` of the image (`store_packed`), and the bytes of field `i` are those of
  value `i` (`slice_packed`), whatever bytes lie before and after the record: these are the
  only two facts a getter or a setter of a particular record needs.
-/
import Navtech.Lib.Buffer
import Navtech.Lib.ByteOrder

namespace PackedRecord

open ByteOrder Buffer

/-- An `n`-byte unsigned integer read from the place `off` of the memory `mem`. -/
def load (n : Nat) (mem : List UInt8) (off : Nat) : Nat := ofLEBytes (slice mem off n)

/-- An `n`-byte unsigned integer written to the place `off` of the memory `mem`. -/
def store (n : Nat) (mem : List UInt8) (off v : Nat) : List UInt8 :=
  copyTo mem off (leBytes n v)

/-- The widths of the fields of a packed record, in bytes, in declaration order. -/
abbrev Layout := List Nat

/-- The distance of field `i` from the start of the record. -/
def fieldOffset (l : Layout) (i : Nat) : Nat := (l.take i).sum

/-- The bytes of the record with the values `vs`, each most significant byte first. -/
def packed (l : Layout) (vs : List Nat) : List UInt8 := (List.zipWith beBytes l vs).flatten

theorem packed_cons (w v : Nat) (l : Layout) (vs : List Nat) :
    packed (w :: l) (v :: vs) = beBytes w v ++ packed l vs := rfl

theorem length_packed {l : Layout} {vs : List Nat} (h : vs.length = l.length) :
    (packed l vs).length = l.sum := by
  induction l generalizing vs with
  | nil => rfl
  | cons w l ih =>
    obtain ⟨v, vs, rfl⟩ := List.exists_cons_of_length_eq_add_one h
    rw [packed_cons, List.length_append, length_beBytes, ih (by simpa using h), List.sum_cons]

/-- A record whose fields are all zero is a run of zero bytes. -/
theorem packed_replicate_zero (l : Layout) :
    packed l (List.replicate l.length 0) = List.replicate l.sum 0 := by
  induction l with
  | nil => rfl
  | cons w l ih =>
    rw [List.length_cons, List.replicate_succ, packed_cons, ih, beBytes_zero, List.sum_cons,
      List.replicate_append_replicate]

/-- A record split at field `i`: what lies before it is as long as the field's offset. -/
theorem packed_split {l : Layout} {vs : List Nat} {i w v : Nat} (hw : l[i]? = some w)
    (hv : vs[i]? = some v) :
    ∃ a b, a.length = fieldOffset l i ∧ packed l vs = a ++ beBytes w v ++ b ∧
      ∀ v', packed l (vs.set i v') = a ++ beBytes w v' ++ b := by
  induction l generalizing vs i with
  | nil => simp at hw
  | cons w₀ l ih =>
    cases vs with
    | nil => simp at hv
    | cons v₀ vs =>
      cases i with
      | zero =>
        obtain rfl : w₀ = w := by simpa using hw
        obtain rfl : v₀ = v := by simpa using hv
        exact ⟨[], packed l vs, rfl, by simp [packed_cons], fun v' => by simp [packed_cons]⟩
      | succ i =>
        obtain ⟨a, b, ha, hp, hs⟩ := ih (by simpa using hw) (by simpa using hv)
        refine ⟨beBytes w₀ v₀ ++ a, b, ?_, ?_, fun v' => ?_⟩
        · rw [List.length_append, length_beBytes, ha, fieldOffset, fieldOffset, List.take_succ_cons,
            List.sum_cons]
        · rw [packed_cons, hp]
          simp
        · rw [List.set_cons_succ, packed_cons, hs v']
          simp

/-- Storing a swapped value into field `i` of a record that lies between `pre` and `post`. -/
theorem store_packed {l : Layout} {vs : List Nat} {i w v : Nat} (pre post : List UInt8)
    (hw : l[i]? = some w) (hv : vs[i]? = some v) (v' : Nat) :
    store w (pre ++ packed l vs ++ post) (pre.length + fieldOffset l i) (byteSwap w v') =
      pre ++ packed l (vs.set i v') ++ post := by
  obtain ⟨a, b, ha, hp, hs⟩ := packed_split hw hv
  have hmem : pre ++ (a ++ beBytes w v ++ b) ++ post =
      (pre ++ a) ++ beBytes w v ++ (b ++ post) := by simp
  rw [store, leBytes_byteSwap, hp, hs v', hmem,
    copyTo_append (by rw [List.length_append, ha]) (by rw [length_beBytes, length_beBytes])]
  simp

/-- The bytes of field `i` of a record that lies between `pre` and `post`. -/
theorem slice_packed {l : Layout} {vs : List Nat} {i w v : Nat} (pre post : List UInt8)
    (hw : l[i]? = some w) (hv : vs[i]? = some v) :
    slice (pre ++ packed l vs ++ post) (pre.length + fieldOffset l i) w = beBytes w v := by
  obtain ⟨a, b, ha, hp, -⟩ := packed_split hw hv
  have hmem : pre ++ (a ++ beBytes w v ++ b) ++ post =
      (pre ++ a) ++ beBytes w v ++ (b ++ post) := by simp
  rw [hp, hmem, slice_append (by rw [List.length_append, ha]) (length_beBytes w v)]

end PackedRecord
