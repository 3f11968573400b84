/-
  Sequences of calls of `Blanking_sector_list`.

  A call returns or throws, and leaves a list behind; or it is one of `from_vector` with an angle
  that `Angle::normalise` does not come to an end with, and there is no other call after it. The
  limit of eight sectors holds and every call does what it reports, in the runs in which no
  reference is added to a list with room and no image that `from_vector` lets pass is read
  into a list with sectors, asks for more than eight or for another length, or holds such an
  angle, and in no others (`honest_iff`).
-/
import Navtech.Navigation.SectorDecoding

namespace Navtech

open Navtech.Utility

namespace BlankingSectorList

/-- A way to make a list, or to add to it. -/
inductive Op where
  | construct (init : List Sector)
  | add (sector : Sector)
  | addMoved (sector : Sector)
  | fromVector (buffer : List UInt8)
deriving DecidableEq

/-- How a call ends, if it does. -/
inductive Outcome where
  | constructed
  | added (reported : Bool)
  | returned
  | threw (e : LengthError)
  /-- The call does not come to an end. -/
  | stays
deriving DecidableEq

/-- The call of an operation, with `turns` turns for each angle. -/
def perform (turns : Nat) (l : BlankingSectorList) : Op → Option (Outcome × BlankingSectorList)
  | .construct init => some (.constructed, ofInitializerList init)
  | .add sector => some (.added (l.add sector).1, (l.add sector).2)
  | .addMoved sector => some (.added (l.addMoved sector).1, (l.addMoved sector).2)
  | .fromVector buffer =>
    (fromVector turns buffer l).map fun (result, l') =>
      (match result with
        | .ok _ => .returned
        | .error e => .threw e, l')

/-- A call, with the list before it and after it. -/
structure Call where
  before : BlankingSectorList
  op : Op
  outcome : Outcome
  after : BlankingSectorList
deriving DecidableEq

/-- The calls that are made one after the other on a list. Nothing is said of the list in a call
    that does not end. -/
inductive Run : BlankingSectorList → List Call → Prop where
  | nil {l : BlankingSectorList} : Run l []
  | stays {l l' : BlankingSectorList} {op : Op} :
      (∀ t, perform t l op = none) → Run l [⟨l, op, .stays, l'⟩]
  | cons {l l' : BlankingSectorList} {op : Op} {outcome : Outcome} {t : Nat}
      {calls : List Call} : perform t l op = some (outcome, l') → Run l' calls →
      Run l (⟨l, op, outcome, l'⟩ :: calls)

/-- An image of at most eight sectors, of just the length that its first byte asks for. -/
def WellFormed (buffer : List UInt8) : Prop :=
  buffer.length = 1 + 8 * (buffer.headD 0).toNat ∧ (buffer.headD 0).toNat ≤ maxSectors

/-- The sectors in the image `buffer`, as many as its first byte says. -/
def Decodes (buffer : List UInt8) (sectors : List Sector) : Prop :=
  ∃ turns, sectors.map some =
    (List.range' 1 (buffer.headD 0).toNat 8).map (sectorAt turns buffer)

/-- The call ends, the list stays within the limit, and it has been changed as the call reports. -/
def Call.Honest (c : Call) : Prop :=
  c.after.sectors.length ≤ maxSectors ∧
    match c.op, c.outcome with
    | _, .stays => False
    | .construct _, _ => True
    | .add sector, .added true | .addMoved sector, .added true =>
      c.after.sectors = c.before.sectors ++ [sector]
    | .fromVector buffer, .returned => WellFormed buffer ∧ Decodes buffer c.after.sectors
    | _, _ => c.after = c.before

/-- None of the angles of an image is above 2^33. -/
def Bounded (buffer : List UInt8) : Prop :=
  ∀ i < 2 * numSectors buffer, (patternAt buffer (1 + 4 * i)).Wraps

/-- The call avoids what the code gets wrong. -/
def Meets (l : BlankingSectorList) : Op → Prop
  | .construct _ | .addMoved _ => True
  | .add _ => maxSectors ≤ l.sectors.length
  | .fromVector buffer =>
    checkSize buffer = .ok () → WellFormed buffer ∧ l = empty ∧ Bounded buffer

variable {l l' : BlankingSectorList}

theorem ofInitializerList_le (init : List Sector) :
    (ofInitializerList init).sectors.length ≤ maxSectors := by
  unfold ofInitializerList
  rw [List.length_take]
  split <;> omega

/-- The first overload of `add` is honest where there is no room. -/
theorem add_honest_iff {sector : Sector} (hl : l.sectors.length ≤ maxSectors) :
    Call.Honest ⟨l, .add sector, .added (l.add sector).1, (l.add sector).2⟩ ↔
      maxSectors ≤ l.sectors.length := by
  by_cases hfull : maxSectors ≤ l.sectors.length
  · have hadd : l.add sector = (false, l) := if_pos hfull
    rw [hadd]
    exact iff_of_true ⟨hl, rfl⟩ hfull
  · have hadd : l.add sector = (false, ⟨l.sectors ++ [sector]⟩) := if_neg hfull
    rw [hadd]
    refine iff_of_false ?_ hfull
    intro h
    have hsame : l.sectors ++ [sector] = l.sectors := congrArg sectors h.2
    simp at hsame

theorem addMoved_honest {sector : Sector} (hl : l.sectors.length ≤ maxSectors) :
    Call.Honest ⟨l, .addMoved sector, .added (l.addMoved sector).1, (l.addMoved sector).2⟩ := by
  by_cases hfull : maxSectors ≤ l.sectors.length
  · have hadd : l.addMoved sector = (false, l) := if_pos hfull
    rw [hadd]
    exact ⟨hl, rfl⟩
  · have hadd : l.addMoved sector = (true, ⟨l.sectors ++ [sector]⟩) := if_neg hfull
    rw [hadd]
    refine ⟨?_, rfl⟩
    show (l.sectors ++ [sector]).length ≤ _
    rw [List.length_append, List.length_singleton]
    omega

theorem checkSize_ok {buffer : List UInt8} (h : checkSize buffer = .ok ()) :
    (buffer.headD 0).toNat = numSectors buffer := by
  unfold checkSize at h
  split at h
  · exact nomatch h
  · split at h
    · exact nomatch h
    · rename_i heq
      exact not_not.mp heq

/-- An image that passes the tests must be well formed, and the list empty. -/
theorem fromVector_honest_iff {turns : Nat} {buffer : List UInt8} {read : List Sector}
    (hcheck : checkSize buffer = .ok ())
    (hread : readSectors turns buffer (numSectors buffer) 1 l.sectors = some read) :
    Call.Honest ⟨l, .fromVector buffer, .returned, ⟨read⟩⟩ ↔ WellFormed buffer ∧ l = empty := by
  obtain ⟨new, rfl, hnew⟩ := readSectors_eq hread
  have hcount : new.length = (buffer.headD 0).toNat := by
    have hlength := congrArg List.length hnew
    rw [List.length_map, List.length_map, List.length_range'] at hlength
    rw [hlength, checkSize_ok hcheck]
  constructor
  · intro h
    obtain ⟨-, hwell, turns', hdecodes⟩ := h
    have hlength := congrArg List.length hdecodes
    rw [List.length_map, List.length_map, List.length_range', List.length_append, hcount]
      at hlength
    have hnil : l.sectors = [] := List.length_eq_zero_iff.mp (by omega)
    exact ⟨hwell, congrArg mk hnil⟩
  · intro h
    obtain ⟨hwell, rfl⟩ := h
    refine ⟨?_, hwell, turns, ?_⟩
    · show new.length ≤ _
      rw [hcount]
      exact hwell.2
    · rw [checkSize_ok hcheck]
      exact hnew

/-- What has been read had angles with an end. -/
theorem bounded_of_read {turns : Nat} {buffer : List UInt8} {read : List Sector}
    (hread : readSectors turns buffer (numSectors buffer) 1 l.sectors = some read) :
    Bounded buffer :=
  (readSectors_ends_iff buffer (numSectors buffer) 1 l.sectors).mp ⟨turns, read, hread⟩

/-- A call that ends. -/
theorem call_honest_iff {turns : Nat} {op : Op} {outcome : Outcome}
    (hl : l.sectors.length ≤ maxSectors) (h : perform turns l op = some (outcome, l')) :
    Call.Honest ⟨l, op, outcome, l'⟩ ↔ Meets l op := by
  cases op with
  | construct init =>
    obtain ⟨rfl, rfl⟩ := Prod.mk.inj (Option.some.inj h)
    exact iff_of_true ⟨ofInitializerList_le init, trivial⟩ trivial
  | add sector =>
    obtain ⟨rfl, rfl⟩ := Prod.mk.inj (Option.some.inj h)
    exact add_honest_iff hl
  | addMoved sector =>
    obtain ⟨rfl, rfl⟩ := Prod.mk.inj (Option.some.inj h)
    exact iff_of_true (addMoved_honest hl) trivial
  | fromVector buffer =>
    obtain ⟨⟨result, l₁⟩, hresult, houtcome⟩ := Option.map_eq_some_iff.mp h
    obtain ⟨rfl, rfl⟩ := Prod.mk.inj houtcome
    cases hcheck : checkSize buffer with
    | error e =>
      rw [fromVector_error hcheck] at hresult
      obtain ⟨rfl, rfl⟩ := Prod.mk.inj (Option.some.inj hresult)
      refine iff_of_true ⟨hl, rfl⟩ ?_
      intro hok
      exact nomatch hcheck.symm.trans hok
    | ok u =>
      rw [fromVector_ok hcheck] at hresult
      obtain ⟨read, hread, hpair⟩ := Option.map_eq_some_iff.mp hresult
      obtain ⟨rfl, rfl⟩ := Prod.mk.inj hpair
      refine (fromVector_honest_iff hcheck hread).trans ⟨?_, ?_⟩
      · intro hboth _
        exact ⟨hboth.1, hboth.2, bounded_of_read hread⟩
      · intro hmeets
        obtain ⟨hwell, hempty, -⟩ := hmeets hcheck
        exact ⟨hwell, hempty⟩

/-- A call that does not end is one of `from_vector`, with an angle above 2^33. -/
theorem not_meets_of_stays {op : Op} (h : ∀ t, perform t l op = none) : ¬ Meets l op := by
  cases op with
  | construct init => exact nomatch h 0
  | add sector => exact nomatch h 0
  | addMoved sector => exact nomatch h 0
  | fromVector buffer =>
    have hends : ¬ ∃ turns, fromVector turns buffer l ≠ none := by
      rintro ⟨turns, hturns⟩
      exact hturns (Option.map_eq_none_iff.mp (h turns))
    rw [fromVector_ends_iff, not_or] at hends
    obtain ⟨hpasses, hangles⟩ := hends
    intro hmeets
    cases hcheck : checkSize buffer with
    | error e => exact hpasses ⟨e, hcheck⟩
    | ok u => exact hangles (hmeets hcheck).2.2

theorem run_honest_iff {calls : List Call} (hl : l.sectors.length ≤ maxSectors)
    (h : Run l calls) : (∀ c ∈ calls, c.Honest) ↔ ∀ c ∈ calls, Meets c.before c.op := by
  induction h with
  | nil => exact iff_of_true (fun _ hc => nomatch hc) fun _ hc => nomatch hc
  | stays hstays =>
    rw [List.forall_mem_singleton, List.forall_mem_singleton]
    refine iff_of_false ?_ (not_meets_of_stays hstays)
    intro h
    exact h.2
  | cons hperform _ ih =>
    rw [List.forall_mem_cons, List.forall_mem_cons, ← call_honest_iff hl hperform]
    exact and_congr_right fun hhonest => ih hhonest.1

/-- **The limit, and honest reports.** In every sequence of calls from an empty list, each call
    ends, keeps to the limit and does what it reports exactly if each avoids what the code gets
    wrong: a reference is added only to a full list, and what `from_vector` does not reject is
    well formed, has no angle above 2^33 and is read into an empty list. -/
theorem honest_iff {calls : List Call} (h : Run empty calls) :
    (∀ c ∈ calls, c.Honest) ↔ ∀ c ∈ calls, Meets c.before c.op :=
  run_honest_iff (by decide) h

/-- Four sectors are read into the empty list and a fifth is moved in; then a new list takes the
    first eight of nine sectors, and has no room for another. -/
def carefulCalls : List Call :=
  let four : BlankingSectorList := ⟨List.replicate 4 exampleSector⟩
  let full : BlankingSectorList := ⟨List.replicate 8 exampleSector⟩
  [⟨empty, .fromVector four.toVector, .returned, four⟩,
    ⟨four, .addMoved exampleSector, .added true, ⟨List.replicate 5 exampleSector⟩⟩,
    ⟨⟨List.replicate 5 exampleSector⟩, .construct (List.replicate 9 exampleSector), .constructed,
      full⟩,
    ⟨full, .add exampleSector, .added false, full⟩]

theorem honest_careful : Run empty carefulCalls ∧ ∀ c ∈ carefulCalls, c.Honest := by
  have hrun : Run empty carefulCalls :=
    .cons (t := 0) rfl (.cons (t := 0) rfl (.cons (t := 0) rfl (.cons (t := 0) rfl .nil)))
  refine ⟨hrun, (honest_iff hrun).mpr ?_⟩
  unfold carefulCalls
  simp only [List.forall_mem_cons]
  refine ⟨fun _ => ⟨⟨by decide, by decide⟩, rfl, ?_⟩, trivial, trivial, le_refl 8,
    fun _ hc => nomatch hc⟩
  exact bounded_of_read (l := empty) (readSectors_image 0 (fun s hs => by
    rw [List.eq_of_mem_replicate hs]
    exact exampleSector_inRange) [4] rfl [] rfl)

/-- A sector is added to an empty list, but the call reports that it is not; an image of twelve
    sectors is added to the one there is; and one with an angle at infinity holds up the last
    call. -/
def carelessCalls : List Call :=
  let one : BlankingSectorList := ⟨[exampleSector]⟩
  let zero : Angle := ⟨⟨0⟩, by decide⟩
  let many : BlankingSectorList := ⟨exampleSector :: List.replicate 12 ⟨zero, zero⟩⟩
  [⟨empty, .add exampleSector, .added false, one⟩,
    ⟨one, .fromVector (12 :: List.replicate 96 0), .returned, many⟩,
    ⟨many, .fromVector fromInfinity, .stays, many⟩]

theorem not_honest_careless : Run empty carelessCalls ∧ ∀ c ∈ carelessCalls, ¬ c.Honest := by
  constructor
  · refine .cons (t := 0) rfl (.cons (t := 0) rfl (.stays fun t => ?_))
    exact Option.map_eq_none_iff.mpr (fromVector_fromInfinity t _)
  · refine List.forall_mem_cons.mpr ⟨?_, List.forall_mem_cons.mpr ⟨?_,
      List.forall_mem_singleton.mpr fun h => h.2⟩⟩
    · intro h
      exact absurd h.2 (by decide)
    · intro h
      exact absurd h.1 (by decide)

end BlankingSectorList

end Navtech
