/-
  The records of a recording of `RosToColraw`: do they decode to their times and their rows?

  The ticks are a sum of quotients, which has a closed form as long as it is a number and not 64
  bits of it (`Config.clock`). A run writes the rows of all frames but the first, each with the
  ticks of the clock (`keeps_main`). From a row to the next the clock takes few ticks, so it does
  not get past the numbers that fit 64 bits but not 32 unseen (`Config.clock_lt_of_mod_lt`).

  So the records of a run decode exactly if the ticks of the last row are below `2 ^ 32`, and the
  encoder has 14 counts for each row, or up to 13 fewer in all (`recordsDecode_iff`).
-/
import Mathlib.Tactic.Ring
import Navtech.Lib.CheckedView
import Navtech.Ros.RosToColraw

namespace Navtech

namespace Ros

namespace RosToColraw

open CheckedView (bind_eq_ok)

/-! ## What a run writes -/

/-- The records in all files, in order. -/
def State.written (s : State) : List Written :=
  s.operations.filterMap fun
    | .create _ _ => none
    | .append w => some w

/-- The records of configurations that begin the files. -/
def State.configs (s : State) : List (List UInt8) :=
  s.operations.filterMap fun
    | .create _ config => some config
    | .append _ => none

/-- What a record is for. -/
def Written.key (w : Written) : Nat × UInt64 := (w.az, w.ticks)

/-- What the record is for, and what is in it. -/
structure Written.Encodes (w : Written) : Prop where
  time : timeOf w.record = w.ticks.toNat % 2 ^ 32
  azimuth : azimuthOf w.record = w.az * 14 % 2 ^ 16

section Run

variable {lib : Library} {c : Config}

/-- The records in the files are those of `rows`. -/
structure State.Keeps (lib : Library) (c : Config) (s : State) (rows : List (Nat × UInt64)) :
    Prop where
  keys : s.written.map Written.key = rows
  encodes : ∀ w ∈ s.written, w.Encodes
  configs : ∀ config ∈ s.configs, config = configRecord lib c

variable {s s' : State} {rows : List (Nat × UInt64)}

theorem State.Keeps.writeConfigToFile (h : s.Keeps lib c rows) :
    (writeConfigToFile lib c s).Keeps lib c rows := by
  have hwritten : (RosToColraw.writeConfigToFile lib c s).written = s.written := by
    simp [RosToColraw.writeConfigToFile, State.written]
  have hconfigs : (RosToColraw.writeConfigToFile lib c s).configs =
      s.configs ++ [configRecord lib c] := by
    simp [RosToColraw.writeConfigToFile, State.configs]
  refine ⟨by rw [hwritten, h.keys], by rw [hwritten]; exact h.encodes, ?_⟩
  rw [hconfigs]
  intro config hmem
  rcases List.mem_append.mp hmem with hold | hnew
  · exact h.configs config hold
  · exact List.mem_singleton.mp hnew

theorem State.Keeps.append (h : s.Keeps lib c rows) {az : Nat} {ticks : UInt64} {r : List UInt8}
    (hencodes : (Written.mk s.filename az ticks r).Encodes) :
    (s.append az ticks r).Keeps lib c (rows ++ [(az, ticks)]) := by
  have hwritten : (s.append az ticks r).written = s.written ++ [⟨s.filename, az, ticks, r⟩] := by
    simp [State.append, State.written]
  have hconfigs : (s.append az ticks r).configs = s.configs := by
    simp [State.append, State.configs]
  refine ⟨by rw [hwritten, List.map_append, h.keys]; rfl, ?_, by rw [hconfigs]; exact h.configs⟩
  rw [hwritten]
  intro w hmem
  rcases List.mem_append.mp hmem with hold | hnew
  · exact h.encodes w hold
  · rw [List.mem_singleton.mp hnew]
    exact hencodes

/-- The ticks at a row. -/
def rowTicks (turn currenttick : UInt64) (az : Nat) : UInt64 :=
  currenttick + UInt64.ofNat az * 10 * 1000000000 / turn

theorem keeps_writeRows {turn currenttick : UInt64} {image : Nat → Nat → UInt8} {stamp : Stamp}
    {turns az : Nat} {ticks ticks' : UInt64} (h : s.Keeps lib c rows)
    (hok : writeRows lib c turn currenttick image stamp turns az s ticks = .ok (s', ticks')) :
    s'.Keeps lib c (rows ++ (List.range' az turns).map fun a => (a, rowTicks turn currenttick a)) ∧
      s'.firstpass = s.firstpass ∧
      ticks' = if turns = 0 then ticks else rowTicks turn currenttick (az + turns - 1) := by
  induction turns generalizing s rows az ticks with
  | zero =>
    cases hok
    refine ⟨?_, rfl, rfl⟩
    rw [List.range'_zero, List.map_nil, List.append_nil]
    exact h
  | succ turns ih =>
    obtain ⟨currenttime, -, hrest⟩ := bind_eq_ok.mp hok
    obtain ⟨hkeeps, hfirst, hlast⟩ := ih (h.append ⟨timeOf_record, azimuthOf_record⟩) hrest
    refine ⟨?_, hfirst, ?_⟩
    · rw [List.append_assoc] at hkeeps
      rw [List.range'_succ]
      exact hkeeps
    · rw [hlast, if_neg (Nat.succ_ne_zero turns)]
      split
      · next hzero =>
        rw [hzero]
        rfl
      · rw [show az + 1 + turns - 1 = az + (turns + 1) - 1 by omega]

/-! ## The clock -/

/-- Rows times rotation speed, which a turn is divided by. -/
def Config.product (c : Config) : Nat := c.azimuths.toNat * c.rotationSpeed.toNat

/-- The ticks for a number of rows. -/
def Config.ticksFor (c : Config) (rows : Nat) : Nat := rows * 10000000000 / c.product

/-- The ticks at row `az` of frame `frame` of those that are written, not cut off to 64 bits. -/
def Config.clock (c : Config) (frame az : Nat) : Nat :=
  36530730 + c.ticksFor 1 - 1000000000 / c.product +
    frame * (c.ticksFor 1 + c.ticksFor (c.azimuths.toNat - 1)) + c.ticksFor az

theorem Config.azimuths_pos (c : Config) : 0 < c.azimuths.toNat :=
  Nat.pos_of_ne_zero fun h => c.azimuths_ne (UInt16.toNat_inj.mp h)

theorem Config.encoderSize_pos (c : Config) : 0 < c.encoderSize.toNat :=
  Nat.pos_of_ne_zero fun h => c.encoderSize_ne (UInt16.toNat_inj.mp h)

theorem Config.product_pos (c : Config) : 0 < c.product :=
  Nat.mul_pos c.azimuths_pos
    (Nat.pos_of_ne_zero fun h => c.rotationSpeed_ne (UInt16.toNat_inj.mp h))

theorem Config.ticksFor_zero : c.ticksFor 0 = 0 := by rw [Config.ticksFor, Nat.zero_mul, Nat.zero_div]

theorem Config.clock_row (frame az : Nat) :
    c.clock frame az = c.clock frame 0 + c.ticksFor az := by
  rw [Config.clock, Config.clock, c.ticksFor_zero, Nat.add_zero]

/-- From the last row of a frame to the first of the next. -/
theorem Config.clock_succ (frame : Nat) :
    c.clock (frame + 1) 0 = c.clock frame (c.azimuths.toNat - 1) + c.ticksFor 1 := by
  rw [Config.clock, Config.clock, Nat.succ_mul, c.ticksFor_zero]
  omega

theorem turn_eq_ok {t : UInt64} (h : turn c = .ok t) :
    c.product < 2 ^ 31 ∧ t = UInt64.ofNat c.product := by
  unfold turn at h
  split at h
  · next hlt => exact ⟨hlt, (Except.ok.inj h).symm⟩
  · cases h

theorem div_ofNat {a : Nat} (ha : a < 2 ^ 64) (hlt : c.product < 2 ^ 31) :
    UInt64.ofNat a / UInt64.ofNat c.product = UInt64.ofNat (a / c.product) :=
  (UInt64.ofNat_div ha (by omega)).symm

theorem rowTicks_eq {frame az : Nat} (hlt : c.product < 2 ^ 31) (haz : az < 2 ^ 16) :
    rowTicks (UInt64.ofNat c.product) (UInt64.ofNat (c.clock frame 0)) az =
      UInt64.ofNat (c.clock frame az) := by
  have hmul : UInt64.ofNat az * 10 * 1000000000 = UInt64.ofNat (az * 10000000000) := by
    rw [UInt64.ofNat_mul, UInt64.mul_assoc]
    rfl
  rw [rowTicks, hmul, div_ofNat (by omega) hlt, ← UInt64.ofNat_add, ← Config.ticksFor,
    ← Config.clock_row]

theorem keeps_firstPass {f : Frame} (h : s.Keeps lib c rows) (hok : firstPass c s f = .ok s') :
    s'.Keeps lib c rows ∧ s'.firstpass = false ∧ c.product < 2 ^ 31 ∧
      s'.previousticks + UInt64.ofNat (c.ticksFor 1) =
        UInt64.ofNat (c.clock 0 0) := by
  obtain ⟨t, hturn, hok⟩ := bind_eq_ok.mp hok
  obtain ⟨hlt, rfl⟩ := turn_eq_ok hturn
  obtain ⟨_, -, hok⟩ := bind_eq_ok.mp hok
  cases hok
  refine ⟨⟨h.keys, h.encodes, h.configs⟩, rfl, hlt, ?_⟩
  have hfirst : (1 * 10 * 100000000 / UInt64.ofNat c.product : UInt64) =
      UInt64.ofNat (1000000000 / c.product) := div_ofNat (a := 1000000000) (by decide) hlt
  have hle : 1000000000 / c.product ≤ c.ticksFor 1 := Nat.div_le_div_right (by decide)
  have hclock : c.clock 0 0 + 1000000000 / c.product = 36530730 + c.ticksFor 1 := by
    rw [Config.clock, Nat.zero_mul, c.ticksFor_zero]
    omega
  have hsum := congrArg UInt64.ofNat hclock
  rw [UInt64.ofNat_add, UInt64.ofNat_add] at hsum
  change 36530730 - 1 * 10 * 100000000 / UInt64.ofNat c.product + _ = _
  rw [hfirst, ← UInt64.add_sub_cancel (UInt64.ofNat (c.clock 0 0)), hsum, UInt64.sub_eq_add_neg,
    UInt64.sub_eq_add_neg]
  change UInt64.ofNat 36530730 + _ + _ = _
  ac_rfl

theorem keeps_splitFile {f : Frame} (h : s.Keeps lib c rows) (hok : splitFile lib c s f = .ok s') :
    s'.Keeps lib c rows ∧ s'.firstpass = s.firstpass ∧ s'.previousticks = s.previousticks := by
  obtain ⟨splits, -, hok⟩ := bind_eq_ok.mp hok
  cases splits
  · cases hok
    exact ⟨h, rfl, rfl⟩
  · cases hok
    refine ⟨?_, rfl, rfl⟩
    exact State.Keeps.writeConfigToFile ⟨h.keys, h.encodes, h.configs⟩

/-- The rows of a frame. -/
def Config.rowsOf (c : Config) (frame : Nat) : List (Nat × UInt64) :=
  (List.range c.azimuths.toNat).map fun az => (az, UInt64.ofNat (c.clock frame az))

theorem keeps_laterPass {f : Frame} {frame : Nat} (h : s.Keeps lib c rows)
    (hlt : c.product < 2 ^ 31)
    (hticks : s.previousticks + UInt64.ofNat (c.ticksFor 1) =
      UInt64.ofNat (c.clock frame 0))
    (hok : laterPass lib c s f = .ok s') :
    s'.Keeps lib c (rows ++ c.rowsOf frame) ∧ s'.firstpass = s.firstpass ∧
      s'.previousticks + UInt64.ofNat (c.ticksFor 1) =
        UInt64.ofNat (c.clock (frame + 1) 0) := by
  obtain ⟨image, -, hok⟩ := bind_eq_ok.mp hok
  obtain ⟨s₁, hsplit, hok⟩ := bind_eq_ok.mp hok
  obtain ⟨hkeeps, hfirst, hprevious⟩ := keeps_splitFile h hsplit
  obtain ⟨t, hturn, hok⟩ := bind_eq_ok.mp hok
  obtain ⟨-, rfl⟩ := turn_eq_ok hturn
  have hone : (1 * 10 * 1000000000 / UInt64.ofNat c.product : UInt64) =
      UInt64.ofNat (c.ticksFor 1) := div_ofNat (a := 10000000000) (by decide) hlt
  have hcurrent : s₁.previousticks + 1 * 10 * 1000000000 / UInt64.ofNat c.product =
      UInt64.ofNat (c.clock frame 0) := by rw [hprevious, hone, hticks]
  obtain ⟨⟨s₂, ticks⟩, hrows, hok⟩ := bind_eq_ok.mp hok
  rw [hcurrent] at hrows
  obtain ⟨hkeeps', hfirst', hlast⟩ := keeps_writeRows hkeeps hrows
  cases hok
  have hsize : c.azimuths.toNat < 2 ^ 16 := c.azimuths.toNat_lt
  have hpos := c.azimuths_pos
  refine ⟨?_, hfirst'.trans hfirst, ?_⟩
  · have hrange : (List.range' 0 c.azimuths.toNat).map (fun a => (a,
        rowTicks (UInt64.ofNat c.product) (UInt64.ofNat (c.clock frame 0)) a)) =
          c.rowsOf frame := by
      rw [Config.rowsOf, List.range_eq_range']
      refine List.map_congr_left fun az haz => ?_
      rw [rowTicks_eq hlt]
      have := List.mem_range'_1.mp haz
      omega
    rw [hrange] at hkeeps'
    exact ⟨hkeeps'.keys, hkeeps'.encodes, hkeeps'.configs⟩
  · change ticks + _ = _
    rw [hlast, if_neg hpos.ne', Nat.zero_add, rowTicks_eq hlt (by omega), ← UInt64.ofNat_add,
      Config.clock_succ]

theorem keeps_laterFrames {frames : List Frame} {frame : Nat} (h : s.Keeps lib c rows)
    (hlt : c.product < 2 ^ 31) (hfirst : s.firstpass = false)
    (hticks : s.previousticks + UInt64.ofNat (c.ticksFor 1) =
      UInt64.ofNat (c.clock frame 0))
    (hok : frames.foldlM (dataHandler lib c) s = .ok s') :
    s'.Keeps lib c (rows ++ (List.range' frame frames.length).flatMap c.rowsOf) := by
  induction frames generalizing s rows frame with
  | nil =>
    cases hok
    rw [List.length_nil, List.range'_zero, List.flatMap_nil, List.append_nil]
    exact h
  | cons f frames ih =>
    rw [List.foldlM_cons] at hok
    obtain ⟨s₁, hone, hrest⟩ := bind_eq_ok.mp hok
    rw [dataHandler, hfirst, if_neg Bool.false_ne_true] at hone
    obtain ⟨hkeeps, hfirst', hticks'⟩ := keeps_laterPass h hlt hticks hone
    rw [List.length_cons, List.range'_succ, List.flatMap_cons, ← List.append_assoc]
    exact ih hkeeps (hfirst'.trans hfirst) hticks' hrest

/-- The rows of a recording: the first frame is not written. -/
def Config.recorded (c : Config) (frames : Nat) : List (Nat × UInt64) :=
  (List.range (frames - 1)).flatMap c.rowsOf

/-- What is in the files. -/
theorem keeps_main {filename : String} {frames : List Frame}
    (hok : main lib c filename frames = .ok s) :
    s.Keeps lib c (c.recorded frames.length) ∧ (0 < frames.length → c.product < 2 ^ 31) := by
  have hstart : (State.initial filename).Keeps lib c [] :=
    ⟨rfl, fun _ hmem => absurd hmem List.not_mem_nil, fun _ hmem => absurd hmem List.not_mem_nil⟩
  cases frames with
  | nil =>
    cases hok
    exact ⟨hstart.writeConfigToFile, fun hpos => absurd hpos (Nat.lt_irrefl 0)⟩
  | cons f frames =>
    rw [main, List.foldlM_cons] at hok
    obtain ⟨s₁, hone, hrest⟩ := bind_eq_ok.mp hok
    obtain ⟨hkeeps, hfirst, hlt, hticks⟩ := keeps_firstPass hstart.writeConfigToFile hone
    have hlater := keeps_laterFrames hkeeps hlt hfirst hticks hrest
    rw [Config.recorded, List.length_cons, Nat.add_sub_cancel, List.range_eq_range']
    exact ⟨hlater, fun _ => hlt⟩

end Run

/-! ## When the times decode -/

section Clock

variable {c : Config}

theorem Config.ticksFor_mono {m n : Nat} (h : m ≤ n) : c.ticksFor m ≤ c.ticksFor n :=
  Nat.div_le_div_right (Nat.mul_le_mul_right _ h)

theorem Config.ticksFor_one_le : c.ticksFor 1 ≤ 10000000000 := Nat.div_le_self _ _

theorem Config.ticksFor_succ_le (n : Nat) : c.ticksFor (n + 1) ≤ c.ticksFor n + c.ticksFor 1 + 1 := by
  rw [Config.ticksFor, Nat.add_mul, Nat.add_div c.product_pos, ← Config.ticksFor, ← Config.ticksFor]
  split <;> omega

theorem Config.clock_mono {frame frame' az az' : Nat} (haz : az < c.azimuths.toNat)
    (h : frame < frame' ∨ frame = frame' ∧ az ≤ az') :
    c.clock frame az ≤ c.clock frame' az' := by
  rw [Config.clock, Config.clock]
  rcases h with hlt | ⟨rfl, hle⟩
  · have hframe := Nat.mul_le_mul_right (c.ticksFor 1 + c.ticksFor (c.azimuths.toNat - 1))
      (Nat.succ_le_of_lt hlt)
    have hlast := c.ticksFor_mono (show az ≤ c.azimuths.toNat - 1 by omega)
    rw [Nat.succ_mul] at hframe
    omega
  · have hle' := c.ticksFor_mono hle
    omega

/-- Of what is recorded, the last row has the most ticks. -/
theorem Config.clock_le_last {frames frame az : Nat} (hframe : frame < frames - 1)
    (haz : az < c.azimuths.toNat) :
    c.clock frame az ≤ c.clock (frames - 2) (c.azimuths.toNat - 1) :=
  c.clock_mono haz (by omega)

/-- From a row to the next there are few ticks. -/
theorem Config.clock_row_le (frame az : Nat) :
    c.clock frame (az + 1) ≤ c.clock frame az + 10000000000 + 1 := by
  have hone := c.ticksFor_one_le
  have hsucc := c.ticksFor_succ_le az
  rw [Config.clock, Config.clock]
  omega

/-- A clock does not jump over the numbers of 64 bits that are too great for 32. -/
theorem lt_of_mod_lt {x y : Nat} (hx : x < 2 ^ 32) (hstep : y ≤ x + 10000000000 + 1)
    (hy : y % 2 ^ 64 < 2 ^ 32) : y < 2 ^ 32 := by
  omega

theorem Config.clock_lt_of_mod_lt {n : Nat}
    (h : ∀ frame < n, ∀ az < c.azimuths.toNat, c.clock frame az % 2 ^ 64 < 2 ^ 32) :
    ∀ frame < n, ∀ az < c.azimuths.toNat, c.clock frame az < 2 ^ 32 := by
  have hone := c.ticksFor_one_le
  have hpos := c.azimuths_pos
  -- the other rows of a frame, from its first
  have hrows {frame : Nat} (hframe : frame < n) (hfirst : c.clock frame 0 < 2 ^ 32) :
      ∀ az < c.azimuths.toNat, c.clock frame az < 2 ^ 32 := by
    intro az haz
    induction az with
    | zero => exact hfirst
    | succ az ih =>
      exact lt_of_mod_lt (ih (by omega)) (c.clock_row_le frame az) (h frame hframe _ haz)
  intro frame hframe
  induction frame with
  | zero =>
    refine hrows hframe (lt_of_mod_lt (x := 36530730) (by decide) ?_ (h 0 hframe 0 hpos))
    have hstart := Nat.sub_le (36530730 + c.ticksFor 1) (1000000000 / c.product)
    rw [Config.clock, Nat.zero_mul, c.ticksFor_zero]
    omega
  | succ frame ih =>
    have hlast := ih (by omega) (c.azimuths.toNat - 1) (by omega)
    refine hrows hframe (lt_of_mod_lt hlast ?_ (h _ hframe 0 hpos))
    rw [c.clock_succ]
    omega

end Clock

/-- Rows of 14 counts of the encoder, in 16 bits. -/
theorem rows_iff {a e : Nat} (ha : 0 < a) (he : 0 < e) (ha' : a < 2 ^ 16) (he' : e < 2 ^ 16) :
    (∀ az < a, az * 14 % 2 ^ 16 < e ∧ az * 14 % 2 ^ 16 * a / e = az) ↔
      a = 1 ∨ 14 * (a - 1) < e ∧ e ≤ 14 * a := by
  constructor
  · intro h
    rcases Nat.lt_or_ge 1 a with hmany | hone
    · right
      have hsecond := (Nat.div_eq_iff he).mp (h 1 hmany).2
      have hsecond' : e ≤ 14 * a ∧ 14 * a < 2 * e := by omega
      -- the first row whose azimuth does not fit 16 bits is 12 counts
      have hfits : a ≤ 4682 := by
        by_contra hlong
        have hrow := (Nat.div_eq_iff he).mp (h 4682 (by omega)).2
        omega
      have hlast := (h (a - 1) (by omega)).1
      omega
    · exact .inl (by omega)
  · rintro (rfl | ⟨hlast, hsize⟩) az haz
    · obtain rfl : az = 0 := by omega
      exact ⟨he, by simp⟩
    · have hmod : az * 14 % 2 ^ 16 = az * 14 := Nat.mod_eq_of_lt (by omega)
      rw [hmod]
      refine ⟨by omega, (Nat.div_eq_iff he).mpr ⟨?_, ?_⟩⟩
      · calc az * e ≤ az * (14 * a) := Nat.mul_le_mul_left _ hsize
          _ = az * 14 * a := (Nat.mul_assoc _ _ _).symm
      · obtain ⟨rest, rfl⟩ := Nat.exists_eq_add_of_lt haz
        have hcounts : (az + 1) * (14 * (az + rest) + 1) ≤ (az + 1) * e :=
          Nat.mul_le_mul_left _ (by omega)
        have hsum : (az + 1) * e = az * e + e := Nat.succ_mul az e
        have hexpand : (az + 1) * (14 * (az + rest) + 1) =
            az * 14 * (az + rest + 1) + (14 * rest + az + 1) := by ring
        omega

/-! ## Decoding -/

/-- The records decode to the rows and the times that they are for, and the times go up. -/
structure Decodes (c : Config) (s : State) : Prop where
  config : ∀ config ∈ s.configs, encoderSizeOf config = c.encoderSize.toNat
  time : ∀ w ∈ s.written, timeOf w.record = w.ticks.toNat
  ordered : (s.written.map fun w => timeOf w.record).Pairwise (· ≤ ·)
  azimuth : ∀ w ∈ s.written, azimuthOf w.record < c.encoderSize.toNat
  row : ∀ w ∈ s.written,
    azimuthOf w.record * c.azimuths.toNat / c.encoderSize.toNat = w.az

section Decoding

variable {lib : Library} {c : Config}

theorem decodes_iff_rows {s : State} {rows : List (Nat × UInt64)} (h : s.Keeps lib c rows) :
    Decodes c s ↔ (∀ r ∈ rows, r.2.toNat < 2 ^ 32) ∧
      (rows.map fun r => r.2.toNat).Pairwise (· ≤ ·) ∧
      ∀ r ∈ rows, r.1 * 14 % 2 ^ 16 < c.encoderSize.toNat ∧
        r.1 * 14 % 2 ^ 16 * c.azimuths.toNat / c.encoderSize.toNat = r.1 := by
  have hmem (P : Nat × UInt64 → Prop) : (∀ r ∈ rows, P r) ↔ ∀ w ∈ s.written, P w.key := by
    rw [← h.keys]
    exact List.forall_mem_map
  have hmap : (rows.map fun r => r.2.toNat) = s.written.map fun w => w.ticks.toNat := by
    rw [← h.keys, List.map_map]
    rfl
  have hwords (htime : ∀ w ∈ s.written, timeOf w.record = w.ticks.toNat) :
      (s.written.map fun w => timeOf w.record) = s.written.map fun w => w.ticks.toNat :=
    List.map_congr_left htime
  rw [hmem, hmem, hmap]
  constructor
  · intro hdecodes
    refine ⟨fun w hw => ?_, ?_, fun w hw => ?_⟩
    · have htime := hdecodes.time w hw
      rw [(h.encodes w hw).time] at htime
      change w.ticks.toNat < 2 ^ 32
      omega
    · rw [← hwords hdecodes.time]
      exact hdecodes.ordered
    · have hazimuth := (h.encodes w hw).azimuth
      have hlt := hdecodes.azimuth w hw
      have hrow := hdecodes.row w hw
      rw [hazimuth] at hlt hrow
      exact ⟨hlt, hrow⟩
  · rintro ⟨hlt, hordered, hrows⟩
    have htime (w : Written) (hw : w ∈ s.written) : timeOf w.record = w.ticks.toNat := by
      rw [(h.encodes w hw).time]
      exact Nat.mod_eq_of_lt (hlt w hw)
    refine ⟨fun config hconfig => ?_, htime, ?_, fun w hw => ?_, fun w hw => ?_⟩
    · rw [h.configs config hconfig, encoderSizeOf_configRecord]
    · rw [hwords htime]
      exact hordered
    · rw [(h.encodes w hw).azimuth]
      exact (hrows w hw).1
    · rw [(h.encodes w hw).azimuth]
      exact (hrows w hw).2

theorem Config.mem_recorded {frames : Nat} {r : Nat × UInt64} :
    r ∈ c.recorded frames ↔ ∃ frame < frames - 1, ∃ az < c.azimuths.toNat,
      (az, UInt64.ofNat (c.clock frame az)) = r := by
  simp [Config.recorded, Config.rowsOf]

/-- The exact condition on a recording. The ticks at its last row fit 32 bits, and the encoder has
    14 counts for each row, or up to 13 fewer in all. -/
structure Config.Fits (c : Config) (frames : Nat) : Prop where
  product : 0 < frames → c.product < 2 ^ 31
  ticks : 1 < frames → c.clock (frames - 2) (c.azimuths.toNat - 1) < 2 ^ 32
  counts : 1 < frames → c.azimuths.toNat = 1 ∨
    14 * (c.azimuths.toNat - 1) < c.encoderSize.toNat ∧ c.encoderSize.toNat ≤ 14 * c.azimuths.toNat

theorem Config.recorded_lt_iff {frames : Nat} :
    (∀ r ∈ c.recorded frames, r.2.toNat < 2 ^ 32) ↔
      (1 < frames → c.clock (frames - 2) (c.azimuths.toNat - 1) < 2 ^ 32) := by
  have hpos := c.azimuths_pos
  constructor
  · intro h hmany
    refine c.clock_lt_of_mod_lt (n := frames - 1) (fun frame hframe az haz => ?_) _ (by omega)
      _ (by omega)
    have hrow := h _ (c.mem_recorded.mpr ⟨frame, hframe, az, haz, rfl⟩)
    rwa [UInt64.toNat_ofNat'] at hrow
  · intro h r hr
    obtain ⟨frame, hframe, az, haz, rfl⟩ := c.mem_recorded.mp hr
    have hlast := h (by omega)
    change (UInt64.ofNat (c.clock frame az)).toNat < 2 ^ 32
    rw [UInt64.toNat_ofNat']
    exact (Nat.mod_le _ _).trans_lt ((c.clock_le_last hframe haz).trans_lt hlast)

theorem Config.recorded_counts_iff {frames : Nat} :
    (∀ r ∈ c.recorded frames, r.1 * 14 % 2 ^ 16 < c.encoderSize.toNat ∧
      r.1 * 14 % 2 ^ 16 * c.azimuths.toNat / c.encoderSize.toNat = r.1) ↔
      (1 < frames → c.azimuths.toNat = 1 ∨ 14 * (c.azimuths.toNat - 1) < c.encoderSize.toNat ∧
        c.encoderSize.toNat ≤ 14 * c.azimuths.toNat) := by
  have hrows := rows_iff c.azimuths_pos c.encoderSize_pos c.azimuths.toNat_lt c.encoderSize.toNat_lt
  constructor
  · intro h hmany
    refine hrows.mp fun az haz => ?_
    have hrow := h (az, UInt64.ofNat (c.clock 0 az))
      (c.mem_recorded.mpr ⟨0, by omega, az, haz, rfl⟩)
    exact hrow
  · intro h r hr
    obtain ⟨frame, hframe, az, haz, rfl⟩ := c.mem_recorded.mp hr
    exact hrows.mpr (h (by omega)) az haz

theorem Config.recorded_ordered {frames : Nat}
    (h : ∀ r ∈ c.recorded frames, r.2.toNat < 2 ^ 32) :
    ((c.recorded frames).map fun r => r.2.toNat).Pairwise (· ≤ ·) := by
  have hlast := c.recorded_lt_iff.mp h
  -- no clock is cut off
  have htoNat {frame az : Nat} (hframe : frame < frames - 1) (haz : az < c.azimuths.toNat) :
      (UInt64.ofNat (c.clock frame az)).toNat = c.clock frame az := by
    have hlt := (c.clock_le_last hframe haz).trans_lt (hlast (by omega))
    rw [UInt64.toNat_ofNat']
    omega
  rw [List.pairwise_map, Config.recorded, List.pairwise_flatMap]
  constructor
  · intro frame hframe
    rw [List.mem_range] at hframe
    rw [Config.rowsOf, List.pairwise_map]
    refine List.pairwise_lt_range.imp_of_mem fun {az az'} haz haz' hlt => ?_
    rw [List.mem_range] at haz haz'
    rw [htoNat hframe haz, htoNat hframe haz']
    exact c.clock_mono haz (.inr ⟨rfl, hlt.le⟩)
  · refine List.pairwise_lt_range.imp_of_mem fun {frame frame'} hframe hframe' hlt => ?_
    rw [List.mem_range] at hframe hframe'
    intro r hr r' hr'
    obtain ⟨az, haz, rfl⟩ := List.mem_map.mp hr
    obtain ⟨az', haz', rfl⟩ := List.mem_map.mp hr'
    rw [List.mem_range] at haz haz'
    rw [htoNat hframe haz, htoNat hframe' haz']
    exact c.clock_mono haz (.inl hlt)

theorem decodes_iff_fits {s : State} {frames : Nat} (h : s.Keeps lib c (c.recorded frames))
    (hlt : 0 < frames → c.product < 2 ^ 31) : Decodes c s ↔ c.Fits frames := by
  rw [decodes_iff_rows h, c.recorded_lt_iff, c.recorded_counts_iff]
  constructor
  · rintro ⟨hticks, -, hcounts⟩
    exact ⟨hlt, hticks, hcounts⟩
  · intro hfits
    exact ⟨hfits.ticks, c.recorded_ordered (c.recorded_lt_iff.mpr hfits.ticks), hfits.counts⟩

end Decoding

/-! ## A run that comes to its end -/

/-- The computation does not come to a product that is too great. -/
def Safe {α : Type} (x : Except Fault α) : Prop := x ≠ .error .overflow

section Safe

variable {lib : Library} {c : Config} {α β : Type}

theorem Safe.bind {x : Except Fault α} {f : α → Except Fault β} (hx : Safe x)
    (hf : ∀ a, Safe (f a)) : Safe (x >>= f) := by
  cases x with
  | error e =>
    intro h
    cases h
    exact hx rfl
  | ok a => exact hf a

theorem safe_ok (a : α) : Safe (.ok a) := fun h => by cases h

theorem safe_thrown (x : Option α) : Safe (thrown x) := by
  cases x with
  | none => exact fun h => absurd (Except.error.inj h) (by decide)
  | some a => exact safe_ok a

theorem safe_writeRows (turn currenttick : UInt64) (image : Nat → Nat → UInt8) (stamp : Stamp)
    (turns az : Nat) (s : State) (ticks : UInt64) :
    Safe (writeRows lib c turn currenttick image stamp turns az s ticks) := by
  induction turns generalizing az s ticks with
  | zero => exact safe_ok _
  | succ turns ih => exact (safe_thrown _).bind fun _ => ih _ _ _

theorem safe_splitFile (s : State) (f : Frame) : Safe (splitFile lib c s f) := by
  refine (safe_thrown _).bind fun splits => ?_
  cases splits
  · exact safe_ok _
  · exact safe_ok _

variable (hlt : c.product < 2 ^ 31)

include hlt

theorem safe_dataHandler (s : State) (f : Frame) : Safe (dataHandler lib c s f) := by
  have hturn : Safe (turn c) := by
    have hok : turn c = .ok (UInt64.ofNat c.product) := if_pos hlt
    rw [hok]
    exact safe_ok _
  rw [dataHandler]
  split
  · exact hturn.bind fun _ => (safe_thrown _).bind fun _ => safe_ok _
  · exact (safe_thrown _).bind fun _ => (safe_splitFile _ _).bind fun _ => hturn.bind fun _ =>
      (safe_writeRows _ _ _ _ _ _ _ _).bind fun _ => safe_ok _

theorem safe_main (filename : String) (frames : List Frame) :
    Safe (main lib c filename frames) := by
  rw [main]
  generalize writeConfigToFile lib c (State.initial filename) = s
  induction frames generalizing s with
  | nil => exact safe_ok s
  | cons f frames ih =>
    rw [List.foldlM_cons]
    exact (safe_dataHandler hlt s f).bind ih

end Safe

/-- **The records of a recording.** In a run in which the library does not throw, the records
    decode exactly if the recording fits. -/
theorem recordsDecode_iff (lib : Library) (c : Config) (filename : String) (frames : List Frame)
    (hthrows : main lib c filename frames ≠ .error .exception) :
    (∃ s, main lib c filename frames = .ok s ∧ Decodes c s) ↔ c.Fits frames.length := by
  constructor
  · rintro ⟨s, hok, hdecodes⟩
    obtain ⟨hkeeps, hlt⟩ := keeps_main hok
    exact (decodes_iff_fits hkeeps hlt).mp hdecodes
  · intro hfits
    have hsafe : Safe (main lib c filename frames) := by
      cases frames with
      | nil => exact safe_ok _
      | cons f frames => exact safe_main (hfits.product (Nat.succ_pos _)) filename _
    match hrun : main lib c filename frames with
    | .error .exception => exact absurd hrun hthrows
    | .error .overflow => exact absurd hrun hsafe
    | .ok s =>
      obtain ⟨hkeeps, hlt⟩ := keeps_main hrun
      exact ⟨s, rfl, (decodes_iff_fits hkeeps hlt).mpr hfits⟩

/-- Two rows, of 14 of the encoder's 28 counts. -/
def twoRows : Config where
  rangeRes := ⟨0⟩
  rangeInBins := 1
  azimuths := 2
  encoderSize := 28
  rotationSpeed := 1000
  packetRate := 2000
  rangeGain := ⟨0⟩
  rangeOffset := ⟨0⟩
  azimuths_ne := by decide
  encoderSize_ne := by decide
  rotationSpeed_ne := by decide

/-- A library that never throws, and frames a second after one another. -/
def quiet : Library where
  splits := fun _ _ => some false
  currenttime := fun stamp _ _ _ => some stamp
  binSize := fun _ => 1750

/-- A black image at a full second. -/
def frameAt (sec : UInt32) : Frame where
  stamp := ⟨sec, 0⟩
  now := ⟨sec, 0⟩
  filename := "Ride1_1_20240101000000_group1.colraw"
  image := some fun _ _ => 0

theorem recordsDecode_iff_twoRows :
    ∃ s, main quiet twoRows "Ride1_1_20240101000000_group1.colraw" [frameAt 1, frameAt 2] = .ok s ∧
      Decodes twoRows s := by
  refine (recordsDecode_iff quiet twoRows _ _ ?_).mpr ⟨?_, ?_, ?_⟩
  · decide +kernel
  · decide
  · decide
  · decide

/-- One row, and one turn of it in 1000 s: the ticks at the first record are 9036530730. -/
def oneRow : Config where
  rangeRes := ⟨0⟩
  rangeInBins := 1
  azimuths := 1
  encoderSize := 14
  rotationSpeed := 1
  packetRate := 1
  rangeGain := ⟨0⟩
  rangeOffset := ⟨0⟩
  azimuths_ne := by decide
  encoderSize_ne := by decide
  rotationSpeed_ne := by decide

theorem not_forall_recordsDecode :
    ¬ ∀ (lib : Library) (c : Config) (filename : String) (frames : List Frame),
      main lib c filename frames ≠ .error .exception →
        ∃ s, main lib c filename frames = .ok s ∧ Decodes c s := by
  intro h
  obtain ⟨s, hok, hdecodes⟩ := h quiet oneRow "Ride1_1_20240101000000_group1.colraw"
    [frameAt 1, frameAt 2] (by decide +kernel)
  obtain ⟨hkeeps, hlt⟩ := keeps_main hok
  have hticks := ((decodes_iff_fits hkeeps hlt).mp hdecodes).ticks (by decide)
  exact absurd hticks (by decide)

end RosToColraw

end Ros

end Navtech
