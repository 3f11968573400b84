/-
  Numbers in text: digit classes for regular expressions, and `std::stoi`.

  With base 0 the base is read off the text: a leading zero makes it octal, and the digits end
  at the first that is none of the base (`scanned`). On a string of decimal digits the
  conversion gives just this (`stoi_of_digits`), and it is the decimal number if there is no
  leading zero.
-/
import Mathlib.Algebra.Group.Int.Defs
import Mathlib.Algebra.Group.Nat.Defs
import Mathlib.Computability.RegularExpressions
import Mathlib.Data.List.TakeWhile

namespace NumberText

/-! ## Patterns -/

section Patterns

open RegularExpression

def oneOf : List Char → RegularExpression Char
  | [] => 0
  | c :: cs => char c + oneOf cs

/-- `[0-n]`. -/
def digitUpTo (n : Nat) : RegularExpression Char := oneOf ((List.range (n + 1)).map Nat.digitChar)

/-- `r?`. -/
def maybe (r : RegularExpression Char) : RegularExpression Char := r + 1

theorem mem_oneOf {cs s : List Char} : s ∈ (oneOf cs).matches' ↔ ∃ c ∈ cs, s = [c] := by
  induction cs with
  | nil => exact iff_of_false (fun h => h) fun ⟨_, h, _⟩ => absurd h List.not_mem_nil
  | cons c cs ih =>
    rw [oneOf, matches'_add, Language.mem_add, ih, matches'_char]
    simp only [List.mem_cons, exists_eq_or_imp]
    exact Iff.rfl

theorem mem_digitUpTo {n : Nat} {s : List Char} :
    s ∈ (digitUpTo n).matches' ↔ ∃ d ≤ n, s = [Nat.digitChar d] := by
  unfold digitUpTo
  rw [mem_oneOf]
  simp only [List.mem_map, List.mem_range, Nat.lt_succ_iff]
  constructor
  · rintro ⟨c, ⟨d, hd, rfl⟩, rfl⟩
    exact ⟨d, hd, rfl⟩
  · rintro ⟨d, hd, rfl⟩
    exact ⟨_, ⟨d, hd, rfl⟩, rfl⟩

theorem mem_maybe {r : RegularExpression Char} {s : List Char} :
    s ∈ (maybe r).matches' ↔ s ∈ r.matches' ∨ s = [] := by
  unfold maybe
  rw [matches'_add, Language.mem_add, matches'_epsilon, Language.mem_one]

end Patterns

/-! ## Conversion -/

inductive Error where
  | invalidArgument (what : String)
  | outOfRange (what : String)
deriving DecidableEq, Repr

/-- The digit that a character stands for; 36 is none of any base. -/
def digitOf (c : Char) : Nat :=
  if c.isDigit then c.toNat - '0'.toNat
  else if c.isLower then c.toNat - 'a'.toNat + 10
  else if c.isUpper then c.toNat - 'A'.toNat + 10
  else 36

/-- The digits of a base that a text begins with. -/
def leading (base : Nat) (str : List Char) : List Char := str.takeWhile fun c => digitOf c < base

/-- The number that digits make behind those of `n`. -/
def numberFrom (base n : Nat) (digits : List Char) : Nat :=
  digits.foldl (fun n c => base * n + digitOf c) n

def number (base : Nat) (digits : List Char) : Nat := numberFrom base 0 digits

def isSpace (c : Char) : Bool := c == ' ' || (9 ≤ c.toNat && c.toNat ≤ 13)

/-- The sign, and what follows it. -/
def sign (str : List Char) : Bool × List Char :=
  if str.head? = some '-' then (true, str.tail)
  else if str.head? = some '+' then (false, str.tail)
  else (false, str)

/-- The base that the text asks for, and what is left to read. -/
def radix (str : List Char) : Nat × List Char :=
  if str.head? = some '0' then
    if (str.getD 1 ' ' = 'x' ∨ str.getD 1 ' ' = 'X') ∧ digitOf (str.getD 2 ' ') < 16 then
      (16, str.drop 2)
    else (8, str)
  else (10, str)

/-- `std::stoi(str, nullptr, 0)`. -/
def stoi (str : List Char) : Except Error Int :=
  let (negative, str) := sign (str.dropWhile isSpace)
  let (base, str) := radix str
  let digits := leading base str
  let value : Int := if negative then -number base digits else number base digits
  if digits = [] then .error (.invalidArgument "stoi")
  else if value < -2 ^ 31 ∨ 2 ^ 31 ≤ value then .error (.outOfRange "stoi")
  else .ok value

/-! ## Strings of digits -/

/-- The number that is made of a string of decimal digits. -/
def scanned (digits : List Char) : Nat :=
  if digits.head? = some '0' then number 8 (leading 8 digits)
  else number 10 digits

section Digits

variable {c : Char} {cs : List Char}

theorem leading_cons_of_lt {base : Nat} (h : digitOf c < base) (cs : List Char) :
    leading base (c :: cs) = c :: leading base cs := List.takeWhile_cons_of_pos (decide_eq_true h)

theorem leading_cons_of_le {base : Nat} (h : base ≤ digitOf c) (cs : List Char) :
    leading base (c :: cs) = [] :=
  List.takeWhile_cons_of_neg fun hlt => Nat.not_le_of_lt (of_decide_eq_true hlt) h

theorem digitOf_of_isDigit (h : c.isDigit = true) : digitOf c = c.toNat - '0'.toNat := if_pos h

theorem digitOf_lt (h : c.isDigit = true) : digitOf c < 10 := by
  have hbounds := Char.isDigit_iff_toNat.mp h
  rw [digitOf_of_isDigit h]
  have hnine : '9'.toNat = '0'.toNat + 9 := rfl
  omega

theorem digitOf_digitChar {d : Nat} (h : d < 10) : digitOf (Nat.digitChar d) = d := by
  have hdigit : (Nat.digitChar d).isDigit = true := by
    rw [Nat.isDigit_digitChar]
    exact decide_eq_true h
  rw [digitOf_of_isDigit hdigit, Nat.toNat_digitChar_of_lt_ten h]
  exact Nat.add_sub_cancel_left ..

theorem digitChar_digitOf (h : c.isDigit = true) : Nat.digitChar (digitOf c) = c := by
  have hbounds := Char.isDigit_iff_toNat.mp h
  refine Char.toNat_inj.mp ?_
  rw [Nat.toNat_digitChar_of_lt_ten (digitOf_lt h), digitOf_of_isDigit h]
  exact Nat.add_sub_cancel' hbounds.1

/-- The decimal number of a string of digits is the one that the library reads. -/
theorem number_ten (h : ∀ c ∈ cs, c.isDigit = true) : number 10 cs = Nat.ofDigitChars 10 cs 0 := by
  unfold number numberFrom
  rw [Nat.ofDigitChars_eq_foldl]
  refine List.foldl_ext _ _ 0 fun n c hc => ?_
  rw [digitOf_of_isDigit (h c hc)]

theorem radix_of_digits (h : ∀ c ∈ cs, c.isDigit = true) :
    radix cs = (if cs.head? = some '0' then 8 else 10, cs) := by
  have hletter : ¬ (cs.getD 1 ' ' = 'x' ∨ cs.getD 1 ' ' = 'X') := by
    rw [List.getD_eq_getElem?_getD]
    cases hsecond : cs[1]? with
    | none => decide
    | some c =>
      rw [Option.getD_some]
      have hc := h c (List.mem_of_getElem? hsecond)
      rintro (rfl | rfl) <;> exact absurd hc (by decide)
  unfold radix
  split
  · rw [if_neg fun hboth => hletter hboth.1]
  · rfl

/-- With base 0 a string of digits is read in its own base, up to the first digit that is none. -/
theorem stoi_of_digits (hne : cs ≠ []) (h : ∀ c ∈ cs, c.isDigit = true)
    (hsmall : scanned cs < 2 ^ 31) : stoi cs = .ok (scanned cs) := by
  obtain ⟨c, rest, rfl⟩ := List.exists_cons_of_ne_nil hne
  have hc := h c List.mem_cons_self
  have hspace : (c :: rest).dropWhile isSpace = c :: rest := by
    refine List.dropWhile_cons_of_neg ?_
    have hbounds := Char.isDigit_iff_toNat.mp hc
    have hzero : '0'.toNat = 48 := rfl
    unfold isSpace
    rw [Bool.or_eq_true, Bool.and_eq_true, decide_eq_true_eq, decide_eq_true_eq, beq_iff_eq]
    rintro (rfl | hcontrol)
    · exact absurd hc (by decide)
    · omega
  have hsign : sign (c :: rest) = (false, c :: rest) := by
    have hother (c' : Char) (hc' : c'.isDigit = false) : (c :: rest).head? ≠ some c' := by
      rw [List.head?_cons, Ne, Option.some.injEq]
      rintro rfl
      exact Bool.false_ne_true (hc'.symm.trans hc)
    unfold sign
    rw [if_neg (hother '-' (by decide)), if_neg (hother '+' (by decide))]
  have hdigits : number (if (c :: rest).head? = some '0' then 8 else 10)
      (leading (if (c :: rest).head? = some '0' then 8 else 10) (c :: rest)) =
        scanned (c :: rest) := by
    unfold scanned
    split
    · rfl
    · unfold leading
      rw [List.takeWhile_eq_self_iff.mpr fun d hd => decide_eq_true (digitOf_lt (h d hd))]
  have hfirst : leading (if (c :: rest).head? = some '0' then 8 else 10) (c :: rest) ≠ [] := by
    rw [leading_cons_of_lt]
    · exact List.cons_ne_nil _ _
    · split
      · rename_i hzero
        obtain rfl := Option.some.inj hzero
        decide
      · exact digitOf_lt hc
  unfold stoi
  dsimp only
  rw [hspace, hsign, radix_of_digits h]
  dsimp only
  rw [if_neg hfirst, hdigits, if_neg Bool.false_ne_true, if_neg (by omega)]

/-! ## Octal and decimal -/

theorem le_numberFrom {base : Nat} (hbase : 0 < base) (n : Nat) (cs : List Char) :
    n ≤ numberFrom base n cs := by
  induction cs generalizing n with
  | nil => exact le_rfl
  | cons c cs ih =>
    refine le_trans ?_ (ih (base * n + digitOf c))
    exact (Nat.le_mul_of_pos_left n hbase).trans (Nat.le_add_right _ _)

/-- An octal number stays behind a decimal one by what it is behind at the start. -/
theorem octal_add_le {m n e : Nat} (h : m + e ≤ n) (cs : List Char) :
    numberFrom 8 m (leading 8 cs) + e ≤ numberFrom 10 n cs := by
  induction cs generalizing m n with
  | nil => exact h
  | cons c cs ih =>
    rcases Nat.lt_or_ge (digitOf c) 8 with hc | hc
    · rw [leading_cons_of_lt hc]
      exact ih (show 8 * m + digitOf c + e ≤ 10 * n + digitOf c by omega)
    · rw [leading_cons_of_le hc]
      exact h.trans (le_numberFrom (by decide) n (c :: cs))

/-- The two are the same for one digit, with zeros before it. -/
theorem octal_eq_iff (cs : List Char) :
    number 8 (leading 8 cs) = number 10 cs ↔ number 10 cs < 8 := by
  induction cs with
  | nil => exact iff_of_true rfl (by decide)
  | cons c cs ih =>
    have hstep : number 10 (c :: cs) = numberFrom 10 (digitOf c) cs := by
      change numberFrom 10 (10 * 0 + digitOf c) cs = _
      rw [Nat.mul_zero, Nat.zero_add]
    rw [hstep]
    rcases Nat.lt_or_ge (digitOf c) 8 with hc | hc
    · have hoctal : number 8 (leading 8 (c :: cs)) =
          numberFrom 8 (digitOf c) (leading 8 cs) := by
        rw [leading_cons_of_lt hc]
        change numberFrom 8 (8 * 0 + digitOf c) _ = _
        rw [Nat.mul_zero, Nat.zero_add]
      rw [hoctal]
      by_cases hzero : digitOf c = 0
      · rw [hzero]
        exact ih
      · cases cs with
        | nil => exact iff_of_true rfl hc
        | cons c' cs =>
          -- a second digit behind one that is not zero
          have htwo : 10 * digitOf c + digitOf c' ≤ numberFrom 10 (digitOf c) (c' :: cs) :=
            le_numberFrom (by decide) (10 * digitOf c + digitOf c') cs
          refine iff_of_false (Nat.ne_of_lt ?_) (by omega)
          rcases Nat.lt_or_ge (digitOf c') 8 with hc' | hc'
          · rw [leading_cons_of_lt hc']
            exact octal_add_le (show 8 * digitOf c + digitOf c' + 1 ≤ 10 * digitOf c + digitOf c' by
              omega) cs
          · rw [leading_cons_of_le hc']
            change digitOf c < _
            omega
    · have hge := le_numberFrom (show 0 < 10 by decide) (digitOf c) cs
      rw [leading_cons_of_le hc]
      exact iff_of_false (show 0 ≠ _ by omega) (by omega)

theorem scanned_le (cs : List Char) : scanned cs ≤ number 10 cs := by
  unfold scanned
  split
  · exact octal_add_le (show 0 + 0 ≤ 0 from le_rfl) cs
  · exact le_rfl

/-- Without a leading zero, or with no more than one digit behind zeros. -/
theorem scanned_eq_iff (cs : List Char) :
    scanned cs = number 10 cs ↔ cs.head? ≠ some '0' ∨ number 10 cs < 8 := by
  unfold scanned
  split
  · rename_i hzero
    rw [octal_eq_iff]
    exact (or_iff_right fun h => h hzero).symm
  · rename_i hother
    exact iff_of_true rfl (.inl hother)

end Digits

end NumberText
