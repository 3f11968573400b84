/-
  Images that are painted column by column through a bare pointer.

  An image is its bytes, row after row. A stroke puts its samples below each other in one column,
  the first sample in the first row; the place of a sample is computed from row and column alone,
  with no check that the column is one of the image. So a column beyond the last one goes on in
  the next row, and only a place outside the memory of the image is a `Fault`.

  `picture` is the image that strokes make of an empty one: at each place the last sample that
  was put there. Painting keeps it (`paint_picture`), and if every stroke lies in a column of
  the image, then a column shows the last stroke in it (`picture_column`).
-/
import Navtech.Lib.CheckedView

open CheckedView

structure Raster where
  rows : Nat
  cols : Nat
  data : List UInt8
  size : data.length = rows * cols

namespace Raster

def zeros (rows cols : Nat) : Raster := ⟨rows, cols, List.replicate (rows * cols) 0, by simp⟩

/-- The place of a sample, as an offset into the data. -/
def place (cols : Nat) (column : Int) (row : Nat) : Int := row * cols + column

/-- A write through the pointer. -/
def set (m : Raster) (place : Int) (v : UInt8) : Except Fault Raster :=
  if 0 ≤ place ∧ place.toNat < m.data.length then
    .ok { m with
      data := m.data.set place.toNat v
      size := by rw [List.length_set, m.size] }
  else .error (.outOfBounds place.toNat 1)

/-- The samples, from this row on. -/
def paint (m : Raster) (column : Int) : List UInt8 → Nat → Except Fault Raster
  | [], _ => .ok m
  | v :: samples, row => do
    let m ← m.set (place m.cols column row) v
    paint m column samples (row + 1)

/-- A column and the samples that are put into it. -/
structure Stroke where
  column : Int
  samples : List UInt8
deriving DecidableEq, Repr

/-- Every sample has a place in the image. -/
def Stroke.Fits (s : Stroke) (rows cols : Nat) : Prop :=
  ∀ i < s.samples.length,
    0 ≤ place cols s.column i ∧ place cols s.column i < (rows * cols : Nat)

/-- The sample of a stroke at a place, if there is one. -/
def Stroke.sampleAt (s : Stroke) (cols p : Nat) : Option UInt8 :=
  if (cols : Int) ∣ p - s.column ∧ s.column ≤ p then
    s.samples[((p - s.column) / cols).toNat]?
  else none

/-- The sample of a stroke in a row of this column. -/
def Stroke.inColumn (s : Stroke) (column row : Nat) : Option UInt8 :=
  if s.column = column then s.samples[row]? else none

/-- The image that strokes make, the last one first. -/
def picture (rows cols : Nat) (strokes : List Stroke) : List UInt8 :=
  (List.range (rows * cols)).map fun p => (strokes.findSome? (·.sampleAt cols p)).getD 0

variable {m m' : Raster} {column : Int} {samples : List UInt8} {row rows cols p : Nat}
  {strokes : List Stroke} {s : Stroke}

/-! ## One write -/

theorem set_eq_ok {q : Int} {v : UInt8} : m.set q v = .ok m' ↔
    (0 ≤ q ∧ q < (m.rows * m.cols : Nat)) ∧ m'.rows = m.rows ∧ m'.cols = m.cols ∧
      m'.data = m.data.set q.toNat v := by
  have hsize := m.size
  unfold set
  constructor
  · intro h
    split at h
    · rename_i hq
      obtain rfl := Except.ok.inj h
      exact ⟨⟨hq.1, by omega⟩, rfl, rfl, rfl⟩
    · cases h
  · rintro ⟨hq, hrows, hcols, hdata⟩
    rw [if_pos ⟨hq.1, by omega⟩]
    cases m'
    cases hrows
    cases hcols
    cases hdata
    rfl

/-- The places of two rows of a column are the same only if there are no columns. -/
theorem place_inj {i j : Nat} (hcols : 0 < cols)
    (h : place cols column i = place cols column j) : i = j := by
  unfold place at h
  have hmul : (i : Int) * cols = j * cols := by omega
  exact Int.ofNat.inj (Int.eq_of_mul_eq_mul_right (by omega) hmul)

/-! ## A stroke -/

/-- The sample of the rows from `row` on at a place. -/
def sampleFrom (column : Int) (samples : List UInt8) (row cols p : Nat) : Option UInt8 :=
  if (cols : Int) ∣ p - column ∧ place cols column row ≤ p then
    samples[((p - column) / cols).toNat - row]?
  else none

theorem sampleFrom_zero (s : Stroke) (cols p : Nat) :
    sampleFrom s.column s.samples 0 cols p = s.sampleAt cols p := by
  unfold sampleFrom Stroke.sampleAt place
  simp

/-- A place of the column, by its row. -/
theorem dvd_iff_place (hcols : 0 < cols) (hp : place cols column row ≤ p) :
    (cols : Int) ∣ p - column ↔
      ∃ i : Nat, row ≤ i ∧ (p : Int) = place cols column i ∧ ((p - column) / cols).toNat = i := by
  unfold place at *
  constructor
  · rintro ⟨k, hk⟩
    have hrow : (row : Int) ≤ k := by
      have hle : (cols : Int) * row ≤ cols * k := by
        rw [← hk, Int.mul_comm]
        omega
      exact Int.le_of_mul_le_mul_left hle (by omega)
    refine ⟨k.toNat, by omega, ?_, ?_⟩
    · rw [Int.toNat_of_nonneg (by omega), Int.mul_comm]
      omega
    · rw [hk, Int.mul_ediv_cancel_left _ (by omega)]
  · rintro ⟨i, -, hi, -⟩
    exact ⟨i, by rw [hi, Int.mul_comm]; omega⟩

/-- The first sample hides nothing of the others. -/
theorem sampleFrom_cons (hcols : 0 < cols) (v : UInt8) :
    sampleFrom column (v :: samples) row cols p =
      if (p : Int) = place cols column row then some v
      else sampleFrom column samples (row + 1) cols p := by
  have hnext : place cols column (row + 1) = place cols column row + cols := by
    unfold place
    rw [Nat.cast_succ, Int.add_mul]
    omega
  by_cases hp : place cols column row ≤ p
  · by_cases hdvd : (cols : Int) ∣ p - column
    · obtain ⟨i, hle, hi, hquot⟩ := (dvd_iff_place hcols hp).mp hdvd
      unfold sampleFrom
      rw [if_pos ⟨hdvd, hp⟩, hquot]
      by_cases heq : i = row
      · subst heq
        rw [if_pos hi, Nat.sub_self]
        rfl
      · have hnot : ¬ (p : Int) = place cols column row := fun h =>
          heq (place_inj hcols (hi.symm.trans h))
        have hle' : place cols column (row + 1) ≤ p := by
          rw [hi]
          unfold place
          have hmul : ((row + 1 : Nat) : Int) * cols ≤ i * cols :=
            Int.mul_le_mul_of_nonneg_right (by omega) (by omega)
          omega
        rw [if_neg hnot, if_pos ⟨hdvd, hle'⟩, show i - row = (i - (row + 1)) + 1 by omega]
        rfl
    · have hnot : ¬ (p : Int) = place cols column row := fun h =>
        hdvd ((dvd_iff_place hcols hp).mpr ⟨row, Nat.le_refl _, h, by
          rw [h]
          unfold place
          rw [Int.add_sub_cancel, Int.mul_ediv_cancel _ (by omega)]
          rfl⟩)
      unfold sampleFrom
      rw [if_neg fun h => hdvd h.1, if_neg hnot, if_neg fun h => hdvd h.1]
  · unfold sampleFrom
    rw [if_neg fun h => hp h.2, if_neg (by omega), if_neg (by omega)]

/-- **A stroke.** It changes nothing but the places of its samples. -/
theorem paint_spec (h : m.paint column samples row = .ok m') :
    m'.rows = m.rows ∧ m'.cols = m.cols ∧ ∀ p < m.rows * m.cols,
      m'.data[p]? = (sampleFrom column samples row m.cols p).or m.data[p]? := by
  induction samples generalizing m row with
  | nil =>
    obtain rfl := Except.ok.inj h
    refine ⟨rfl, rfl, fun p _ => ?_⟩
    have hnone : sampleFrom column [] row m.cols p = none := by
      unfold sampleFrom
      split
      · rfl
      · rfl
    rw [hnone, Option.none_or]
  | cons v samples ih =>
    obtain ⟨m₁, hset, hrest⟩ := bind_eq_ok.mp h
    obtain ⟨hq, hrows, hcols, hdata⟩ := set_eq_ok.mp hset
    obtain ⟨hrows', hcols', hspec⟩ := ih hrest
    refine ⟨hrows'.trans hrows, hcols'.trans hcols, fun p hp => ?_⟩
    have hpos : 0 < m.cols := Nat.pos_of_ne_zero fun h0 => by
      rw [h0, Nat.mul_zero] at hp
      exact Nat.not_lt_zero p hp
    have hsize := m.size
    rw [hspec p (by rw [hrows, hcols]; exact hp), hcols, sampleFrom_cons hpos, hdata,
      List.getElem?_set]
    by_cases hp' : (p : Int) = place m.cols column row
    · -- the samples below do not reach this place again
      have hnone : sampleFrom column samples (row + 1) m.cols p = none := by
        unfold sampleFrom
        rw [if_neg]
        rintro ⟨-, hle⟩
        rw [hp'] at hle
        unfold place at hle
        rw [Nat.cast_succ, Int.add_mul] at hle
        omega
      rw [if_pos hp', hnone, if_pos (by omega), if_pos (by omega)]
      rfl
    · rw [if_neg hp', if_neg (by omega)]

/-- A stroke is painted exactly if all its samples have a place. -/
theorem succeeds_paint : Succeeds (m.paint column samples row) ↔
    ∀ i < samples.length, 0 ≤ place m.cols column (row + i) ∧
      place m.cols column (row + i) < (m.rows * m.cols : Nat) := by
  induction samples generalizing m row with
  | nil => exact iff_of_true ⟨m, rfl⟩ fun i hi => absurd hi (Nat.not_lt_zero i)
  | cons v samples ih =>
    constructor
    · rintro ⟨m', h⟩ i hi
      obtain ⟨m₁, hset, hrest⟩ := bind_eq_ok.mp h
      obtain ⟨hq, hrows, hcols, -⟩ := set_eq_ok.mp hset
      cases i with
      | zero => exact hq
      | succ i =>
        have hlater := ih.mp ⟨m', hrest⟩ i (Nat.lt_of_succ_lt_succ hi)
        rw [hrows, hcols] at hlater
        rwa [show row + (i + 1) = row + 1 + i by omega]
    · intro h
      have hfirst := h 0 (Nat.succ_pos _)
      have hsize := m.size
      obtain ⟨m₁, hset⟩ : Succeeds (m.set (place m.cols column row) v) :=
        ⟨_, if_pos ⟨hfirst.1, by have hlast := hfirst.2; rw [Nat.add_zero] at hlast; omega⟩⟩
      obtain ⟨-, hrows, hcols, -⟩ := set_eq_ok.mp hset
      obtain ⟨m', hm'⟩ : Succeeds (m₁.paint column samples (row + 1)) := ih.mpr fun i hi => by
        have hlater := h (i + 1) (Nat.succ_lt_succ hi)
        rw [hrows, hcols]
        rwa [show row + (i + 1) = row + 1 + i by omega] at hlater
      exact ⟨m', bind_eq_ok.mpr ⟨m₁, hset, hm'⟩⟩

/-! ## Pictures -/

theorem length_picture (rows cols : Nat) (strokes : List Stroke) :
    (picture rows cols strokes).length = rows * cols := by
  unfold picture
  rw [List.length_map, List.length_range]

theorem getElem?_picture (hp : p < rows * cols) : (picture rows cols strokes)[p]? =
    some ((strokes.findSome? (·.sampleAt cols p)).getD 0) := by
  unfold picture
  rw [List.getElem?_map, List.getElem?_range hp]
  rfl

theorem picture_nil (rows cols : Nat) : picture rows cols [] = (zeros rows cols).data := by
  unfold picture zeros
  simp

/-- A stroke more. -/
theorem paint_picture (hm : m.data = picture m.rows m.cols strokes)
    (h : m.paint s.column s.samples 0 = .ok m') :
    m'.rows = m.rows ∧ m'.cols = m.cols ∧
      m'.data = picture m.rows m.cols (s :: strokes) := by
  obtain ⟨hrows, hcols, hspec⟩ := paint_spec h
  refine ⟨hrows, hcols, List.ext_getElem? fun p => ?_⟩
  by_cases hp : p < m.rows * m.cols
  · rw [hspec p hp, sampleFrom_zero, hm, getElem?_picture hp, getElem?_picture hp,
      List.findSome?_cons]
    cases s.sampleAt m.cols p with
    | none => rfl
    | some v => rfl
  · have hsize := m'.size
    have hlen := length_picture m.rows m.cols (s :: strokes)
    rw [hrows, hcols] at hsize
    rw [List.getElem?_eq_none (by omega), List.getElem?_eq_none (by omega)]

/-- The sample of a stroke whose column is one of the image. -/
theorem sampleAt_column {c : Nat} (hs : 0 ≤ s.column ∧ s.column < cols) (hc : c < cols) :
    s.sampleAt cols (row * cols + c) = s.inColumn c row := by
  unfold Stroke.sampleAt Stroke.inColumn
  by_cases heq : s.column = c
  · have hplace : ((row * cols + c : Nat) : Int) - s.column = row * cols := by
      rw [heq]
      push_cast
      omega
    have hle : (0 : Int) ≤ row * cols := Int.mul_nonneg (by omega) (by omega)
    rw [if_pos heq, hplace, if_pos ⟨⟨row, Int.mul_comm _ _⟩, by omega⟩,
      Int.mul_ediv_cancel _ (by omega)]
    rfl
  · rw [if_neg heq, if_neg]
    rintro ⟨⟨k, hk⟩, -⟩
    -- two columns of the image differ by less than a row
    have hdiff : (c : Int) - s.column = cols * (k - row) := by
      rw [Int.mul_sub, ← hk]
      push_cast
      rw [Int.mul_comm (cols : Int)]
      omega
    have hzero : (c : Int) - s.column = 0 :=
      Int.eq_zero_of_abs_lt_dvd ⟨_, hdiff⟩ (by rw [abs_lt]; omega)
    omega

/-- **The columns.** Each shows the last strokes in it. -/
theorem picture_column {c : Nat} (hrow : row < rows) (hc : c < cols)
    (hall : ∀ s ∈ strokes, 0 ≤ s.column ∧ s.column < cols) :
    (picture rows cols strokes)[row * cols + c]? =
      some ((strokes.findSome? (·.inColumn c row)).getD 0) := by
  have hp : row * cols + c < rows * cols := by
    have hle : (row + 1) * cols ≤ rows * cols := Nat.mul_le_mul_right cols hrow
    rw [Nat.add_mul, Nat.one_mul] at hle
    omega
  rw [getElem?_picture hp]
  refine congrArg (fun v => some (Option.getD v 0)) ?_
  clear hp
  induction strokes with
  | nil => rfl
  | cons s strokes ih =>
    rw [List.findSome?_cons, List.findSome?_cons, sampleAt_column (hall s List.mem_cons_self) hc,
      ih fun t ht => hall t (List.mem_cons_of_mem s ht)]

/-- For a stroke in a column of the image, to fit is to be no longer than the column. -/
theorem fits_column (hs : 0 ≤ s.column ∧ s.column < cols) :
    s.Fits rows cols ↔ s.samples.length ≤ rows := by
  unfold Stroke.Fits place
  constructor
  · intro h
    by_contra hlong
    have hlast := (h rows (by omega)).2
    push_cast at hlast
    omega
  · intro h i hi
    have hle : ((i + 1 : Nat) : Int) * cols ≤ rows * cols :=
      Int.mul_le_mul_of_nonneg_right (by omega) (by omega)
    have hpos : (0 : Int) ≤ i * cols := Int.mul_nonneg (by omega) (by omega)
    rw [Nat.cast_succ, Int.add_mul] at hle
    push_cast
    omega

end Raster
