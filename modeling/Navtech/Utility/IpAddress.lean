/-
  `IP_address` of `cpp_17/utility/ip_address.{h,cpp}`.

  Strings are checked by one rule and converted by another. The regular expression accepts four
  fields of one to three decimal digits, up to 255 (`validate_iff`). The conversion takes the
  base from the field, and a leading zero makes it octal: `010` is 8, and `08` is 0. So a
  string means the address it spells exactly if no field has a leading zero before a number of
  8 or more (`means_iff`). What `to_string` prints has no leading zeros; it is read back.
-/
import Mathlib.Data.UInt
import Navtech.Lib.ByteOrder
import Navtech.Lib.NumberText

namespace Navtech.Utility

open ByteOrder NumberText

/-- The union `Address`, by its member `word`. -/
structure IPAddress where
  word : UInt32
deriving DecidableEq, Repr

namespace IPAddress

/-! ## The address -/

/-- `address.byte[i]`; the machine is little-endian. -/
def byte (a : IPAddress) (i : Nat) : UInt8 := (leBytes 4 a.word.toNat).getD i 0

/-- One byte of the number is replaced. -/
def setByte (a : IPAddress) (i : Nat) (b : UInt8) : IPAddress :=
  ⟨UInt32.ofNat (ofLEBytes ((leBytes 4 a.word.toNat).set i b))⟩

/-- `to_string`, from the highest byte down. -/
def toString (a : IPAddress) : List Char :=
  Nat.toDigits 10 (a.byte 3).toNat ++ ['.'] ++ Nat.toDigits 10 (a.byte 2).toNat ++ ['.'] ++
    Nat.toDigits 10 (a.byte 1).toNat ++ ['.'] ++ Nat.toDigits 10 (a.byte 0).toNat

/-! ## Strings -/

section Format

open RegularExpression

/-- `25[0-5]|2[0-4][0-9]|[01]?[0-9][0-9]?`. -/
def octetFormat : RegularExpression Char :=
  char '2' * char '5' * digitUpTo 5 + char '2' * digitUpTo 4 * digitUpTo 9 +
    maybe (digitUpTo 1) * digitUpTo 9 * maybe (digitUpTo 9)

/-- The expression of `validate`: four octets with points between. -/
def ipFormat : RegularExpression Char := (octetFormat * char '.') ^ 3 * octetFormat

end Format

/-- `validate` throws where the expression does not match. -/
def validate (ipAddrStr : List Char) : Except Error Unit :=
  if ipFormat.rmatch ipAddrStr then .ok () else .error (.outOfRange "Invalid IP address")

/-- `getline(stream, str, delim)`, with what is left of the stream. -/
def getline (stream : List Char) (delim : Char) : Option (List Char × List Char) :=
  if stream = [] then none
  else some (stream.takeWhile (· != delim), (stream.dropWhile (· != delim)).drop 1)

/-- The loop of `parse_string`, over the bytes that are still to be set. -/
def parseBytes : List Nat → List Char → IPAddress → Except Error IPAddress
  | [], _, a => .ok a
  | i :: rest, stream, a =>
    match getline stream '.' with
    | none => parseBytes rest stream a
    | some (str, stream) => do
      let value ← stoi str
      parseBytes rest stream (a.setByte i (UInt8.ofInt value))

/-- `parse_string` sets the bytes from the highest down. -/
def parseString (a : IPAddress) (ipAddrStr : List Char) : Except Error IPAddress :=
  parseBytes [3, 2, 1, 0] ipAddrStr a

/-- `operator=(std::string_view)`. -/
def assign (a : IPAddress) (ipAddrStr : List Char) : Except Error IPAddress := do
  validate ipAddrStr
  a.parseString ipAddrStr

/-- `IP_address(std::string_view)`. -/
def ofString (ipAddrStr : List Char) : Except Error IPAddress := assign ⟨0⟩ ipAddrStr

/-! ## What a string means -/

/-- The dotted fields. -/
def fields (s : List Char) : List (List Char) := s.splitOn '.'

/-- The octets of an address, as they are printed. -/
def octets (a : IPAddress) : List Nat := [3, 2, 1, 0].map fun i => (a.byte i).toNat

/-- The string gives, by construction or assignment, the address that it spells, and so does what
    is printed of this address. -/
def Means (s : List Char) : Prop :=
  ∃ a, ofString s = .ok a ∧ (∀ prior, assign prior s = .ok a) ∧
    a.octets = (fields s).map (number 10) ∧
    (fields a.toString).map (number 10) = (fields s).map (number 10) ∧
    ofString a.toString = .ok a

/-! ## The format -/

/-- What a field is accepted as. -/
structure IsOctet (field : List Char) : Prop where
  ne_nil : field ≠ []
  length_le : field.length ≤ 3
  isDigit : ∀ c ∈ field, c.isDigit = true
  number_le : number 10 field ≤ 255

section Octets

open RegularExpression

variable {field s : List Char}

theorem isOctet_map {ds : List Nat} (hne : ds ≠ []) (hlength : ds.length ≤ 3)
    (hds : ∀ d ∈ ds, d < 10) (hvalue : ds.foldl (fun n d => 10 * n + d) 0 ≤ 255) :
    IsOctet (ds.map Nat.digitChar) where
  ne_nil := fun h => hne (List.map_eq_nil_iff.mp h)
  length_le := by rwa [List.length_map]
  isDigit := by
    intro c hc
    obtain ⟨d, hd, rfl⟩ := List.mem_map.mp hc
    rw [Nat.isDigit_digitChar]
    exact decide_eq_true (hds d hd)
  number_le := by
    unfold number numberFrom
    rw [List.foldl_map]
    refine le_of_eq_of_le (List.foldl_ext _ _ 0 fun n d hd => ?_) hvalue
    rw [digitOf_digitChar (hds d hd)]

theorem isOctet_one {i : Nat} (hi : i ≤ 9) : IsOctet [Nat.digitChar i] :=
  isOctet_map (List.cons_ne_nil i []) (by simp) (by simpa using Nat.lt_succ_of_le hi)
    (by simp only [List.foldl_cons, List.foldl_nil]; omega)

theorem isOctet_two {i j : Nat} (hi : i ≤ 9) (hj : j ≤ 9) :
    IsOctet [Nat.digitChar i, Nat.digitChar j] :=
  isOctet_map (List.cons_ne_nil i [j]) (by simp)
    (by simpa using ⟨Nat.lt_succ_of_le hi, Nat.lt_succ_of_le hj⟩)
    (by simp only [List.foldl_cons, List.foldl_nil]; omega)

theorem isOctet_three {i j k : Nat} (hi : i ≤ 9) (hj : j ≤ 9) (hk : k ≤ 9)
    (hvalue : 100 * i + 10 * j + k ≤ 255) :
    IsOctet [Nat.digitChar i, Nat.digitChar j, Nat.digitChar k] :=
  isOctet_map (List.cons_ne_nil i [j, k]) (by simp)
    (by simpa using ⟨Nat.lt_succ_of_le hi, Nat.lt_succ_of_le hj, Nat.lt_succ_of_le hk⟩)
    (by simp only [List.foldl_cons, List.foldl_nil]; omega)

theorem isOctet_iff : IsOctet field ↔ ∃ ds : List Nat, ds ≠ [] ∧ ds.length ≤ 3 ∧
    (∀ d ∈ ds, d < 10) ∧ ds.foldl (fun n d => 10 * n + d) 0 ≤ 255 ∧
    field = ds.map Nat.digitChar := by
  constructor
  · intro h
    refine ⟨field.map digitOf, fun hnil => h.ne_nil (List.map_eq_nil_iff.mp hnil), ?_, ?_, ?_, ?_⟩
    · rw [List.length_map]
      exact h.length_le
    · intro d hd
      obtain ⟨c, hc, rfl⟩ := List.mem_map.mp hd
      exact digitOf_lt (h.isDigit c hc)
    · rw [List.foldl_map]
      exact h.number_le
    · have hback : field.map (Nat.digitChar ∘ digitOf) = field.map id :=
        List.map_congr_left fun c hc => digitChar_digitOf (h.isDigit c hc)
      rw [List.map_map, hback, List.map_id]
  · rintro ⟨ds, hne, hlength, hds, hvalue, rfl⟩
    exact isOctet_map hne hlength hds hvalue

/-- The alternatives are the numbers up to 255 of one to three digits. -/
theorem mem_octetFormat : field ∈ octetFormat.matches' ↔ IsOctet field := by
  unfold octetFormat
  simp only [matches'_add, matches'_mul, Language.mem_add, Language.mem_mul, matches'_char,
    mem_digitUpTo, mem_maybe]
  constructor
  · rintro ((⟨_, ⟨_, rfl, _, rfl, rfl⟩, _, ⟨d, hd, rfl⟩, rfl⟩ |
        ⟨_, ⟨_, rfl, _, ⟨d, hd, rfl⟩, rfl⟩, _, ⟨e, he, rfl⟩, rfl⟩) |
      ⟨_, ⟨_, ⟨d, hd, rfl⟩ | rfl, _, ⟨e, he, rfl⟩, rfl⟩, _, ⟨k, hk, rfl⟩ | rfl, rfl⟩)
    · exact isOctet_three (i := 2) (j := 5) (by decide) (by decide) (by omega) (by omega)
    · exact isOctet_three (i := 2) (by decide) (by omega) he (by omega)
    · exact isOctet_three (by omega) he hk (by omega)
    · exact isOctet_two (by omega) he
    · exact isOctet_two he hk
    · exact isOctet_one he
  · intro h
    obtain ⟨ds, hne, hlength, hds, hvalue, rfl⟩ := isOctet_iff.mp h
    have hnine (d : Nat) (hd : d ∈ ds) : d ≤ 9 := Nat.le_of_lt_succ (hds d hd)
    obtain _ | ⟨i, _ | ⟨j, _ | ⟨k, _ | ⟨l, ds⟩⟩⟩⟩ := ds
    · exact absurd rfl hne
    · exact .inr ⟨_, ⟨[], .inr rfl, _, ⟨i, hnine i (by simp), rfl⟩, rfl⟩, [], .inr rfl, rfl⟩
    · exact .inr ⟨_, ⟨[], .inr rfl, _, ⟨i, hnine i (by simp), rfl⟩, rfl⟩, _,
        .inl ⟨j, hnine j (by simp), rfl⟩, rfl⟩
    · have hi : 100 * i + 10 * j + k ≤ 255 := by
        simp only [List.foldl_cons, List.foldl_nil] at hvalue
        omega
      have hj := hnine j (by simp)
      have hk := hnine k (by simp)
      rcases Nat.lt_or_ge i 2 with hone | htwo
      · exact .inr ⟨_, ⟨_, .inl ⟨i, Nat.le_of_lt_succ hone, rfl⟩, _, ⟨j, hj, rfl⟩, rfl⟩, _,
          .inl ⟨k, hk, rfl⟩, rfl⟩
      obtain rfl : i = 2 := by omega
      rcases Nat.lt_or_ge j 5 with hfour | hfive
      · exact .inl (.inr ⟨_, ⟨_, rfl, _, ⟨j, Nat.le_of_lt_succ hfour, rfl⟩, rfl⟩, _,
          ⟨k, hk, rfl⟩, rfl⟩)
      obtain rfl : j = 5 := by omega
      exact .inl (.inl ⟨_, ⟨_, rfl, _, rfl, rfl⟩, _, ⟨k, by omega, rfl⟩, rfl⟩)
    · simp only [List.length_cons] at hlength
      omega

/-- Four fields, with dots between them. -/
theorem validate_iff : validate s = .ok () ↔ ∃ f₃ f₂ f₁ f₀, (IsOctet f₃ ∧ IsOctet f₂ ∧
    IsOctet f₁ ∧ IsOctet f₀) ∧ s = ['.'].intercalate [f₃, f₂, f₁, f₀] := by
  have hformat : s ∈ ipFormat.matches' ↔ ∃ f₃ f₂ f₁ f₀, (IsOctet f₃ ∧ IsOctet f₂ ∧
      IsOctet f₁ ∧ IsOctet f₀) ∧ s = ['.'].intercalate [f₃, f₂, f₁, f₀] := by
    unfold ipFormat
    rw [matches'_mul, matches'_pow, pow_succ, pow_two, matches'_mul, matches'_char]
    simp only [Language.mem_mul, mem_octetFormat]
    constructor
    · rintro ⟨_, ⟨_, ⟨_, ⟨f₃, h₃, _, rfl, rfl⟩, _, ⟨f₂, h₂, _, rfl, rfl⟩, rfl⟩,
        _, ⟨f₁, h₁, _, rfl, rfl⟩, rfl⟩, f₀, h₀, rfl⟩
      exact ⟨f₃, f₂, f₁, f₀, ⟨h₃, h₂, h₁, h₀⟩, by simp [List.intercalate_cons_cons]⟩
    · rintro ⟨f₃, f₂, f₁, f₀, ⟨h₃, h₂, h₁, h₀⟩, rfl⟩
      exact ⟨_, ⟨_, ⟨_, ⟨f₃, h₃, _, rfl, rfl⟩, _, ⟨f₂, h₂, _, rfl, rfl⟩, rfl⟩,
        _, ⟨f₁, h₁, _, rfl, rfl⟩, rfl⟩, f₀, h₀, by simp [List.intercalate_cons_cons]⟩
  rw [← hformat, ← rmatch_iff_matches']
  unfold validate
  split
  · rename_i hmatch
    exact iff_of_true rfl hmatch
  · rename_i hmatch
    exact iff_of_false (fun h => by cases h) hmatch

end Octets

/-! ## Conversion -/

theorem IsOctet.stoi_eq {field : List Char} (h : IsOctet field) :
    stoi field = .ok (scanned field) := by
  refine stoi_of_digits h.ne_nil h.isDigit ?_
  have hle := (scanned_le field).trans h.number_le
  omega

theorem IsOctet.dot_not_mem {field : List Char} (h : IsOctet field) : '.' ∉ field :=
  fun hmem => absurd (h.isDigit _ hmem) (by decide)

theorem bne_of_not_mem {field : List Char} {delim : Char} (h : delim ∉ field) :
    ∀ c ∈ field, (c != delim) = true := by
  intro c hc
  exact bne_iff_ne.mpr fun heq => h (heq ▸ hc)

theorem getline_append {field : List Char} {delim : Char} (h : delim ∉ field) (rest : List Char) :
    getline (field ++ delim :: rest) delim = some (field, rest) := by
  have hother := bne_of_not_mem h
  unfold getline
  rw [if_neg (by simp), List.takeWhile_append_of_pos hother, List.dropWhile_append_of_pos hother]
  simp

theorem getline_last {field : List Char} {delim : Char} (hne : field ≠ []) (h : delim ∉ field) :
    getline field delim = some (field, []) := by
  have hother := bne_of_not_mem h
  unfold getline
  rw [if_neg hne, List.takeWhile_eq_self_iff.mpr hother, List.dropWhile_eq_nil_iff.mpr hother,
    List.drop_nil]

theorem leBytes_setByte (a : IPAddress) (i : Nat) (b : UInt8) :
    leBytes 4 (a.setByte i b).word.toNat = (leBytes 4 a.word.toNat).set i b := by
  have hlength : ((leBytes 4 a.word.toNat).set i b).length = 4 := by
    rw [List.length_set, length_leBytes]
  have hlt : ofLEBytes ((leBytes 4 a.word.toNat).set i b) < 2 ^ 32 := by
    have h := ofLEBytes_lt ((leBytes 4 a.word.toNat).set i b)
    rwa [hlength] at h
  have h := leBytes_ofLEBytes ((leBytes 4 a.word.toNat).set i b)
  rw [hlength] at h
  unfold setByte
  rwa [UInt32.toNat_ofNat_of_lt' hlt]

/-- The address with given octets. -/
def ofOctets (b₃ b₂ b₁ b₀ : UInt8) : IPAddress := ⟨UInt32.ofNat (ofLEBytes [b₀, b₁, b₂, b₃])⟩

theorem setByte_eq_ofOctets (a : IPAddress) (b₃ b₂ b₁ b₀ : UInt8) :
    (((a.setByte 3 b₃).setByte 2 b₂).setByte 1 b₁).setByte 0 b₀ = ofOctets b₃ b₂ b₁ b₀ := by
  have hbytes : (leBytes 4 (((a.setByte 3 b₃).setByte 2 b₂).setByte 1 b₁).word.toNat).set 0 b₀ =
      [b₀, b₁, b₂, b₃] := by
    rw [leBytes_setByte, leBytes_setByte, leBytes_setByte]
    rfl
  rw [setByte, hbytes]
  rfl

theorem leBytes_ofOctets (b₃ b₂ b₁ b₀ : UInt8) :
    leBytes 4 (ofOctets b₃ b₂ b₁ b₀).word.toNat = [b₀, b₁, b₂, b₃] := by
  rw [← setByte_eq_ofOctets ⟨0⟩, leBytes_setByte, leBytes_setByte, leBytes_setByte, leBytes_setByte]
  rfl

theorem octets_ofOctets (b₃ b₂ b₁ b₀ : UInt8) :
    (ofOctets b₃ b₂ b₁ b₀).octets = [b₃, b₂, b₁, b₀].map UInt8.toNat := by
  unfold octets byte
  rw [leBytes_ofOctets]
  rfl

theorem ofOctets_byte (a : IPAddress) :
    ofOctets (a.byte 3) (a.byte 2) (a.byte 1) (a.byte 0) = a := by
  have hbytes : [a.byte 0, a.byte 1, a.byte 2, a.byte 3] = leBytes 4 a.word.toNat := rfl
  have hmod : a.word.toNat % 256 ^ 4 = a.word.toNat := Nat.mod_eq_of_lt a.word.toNat_lt
  rw [ofOctets, hbytes, ofLEBytes_leBytes, hmod, UInt32.ofNat_toNat]

theorem ofInt_natCast (n : Nat) : UInt8.ofInt (n : Int) = UInt8.ofNat n := by
  refine UInt8.toNat_inj.mp ?_
  rw [UInt8.toNat_ofNat']
  change (UInt8.ofNat ((n : Int) % 2 ^ 8).toNat).toNat = n % 2 ^ 8
  rw [UInt8.toNat_ofNat']
  omega

theorem parseBytes_append {field : List Char} (h : IsOctet field) (i : Nat) (rest : List Nat)
    (stream : List Char) (a : IPAddress) :
    parseBytes (i :: rest) (field ++ '.' :: stream) a =
      parseBytes rest stream (a.setByte i (UInt8.ofNat (scanned field))) := by
  rw [parseBytes, getline_append h.dot_not_mem, ← ofInt_natCast]
  dsimp only
  rw [h.stoi_eq]
  rfl

theorem parseBytes_last {field : List Char} (h : IsOctet field) (i : Nat) (a : IPAddress) :
    parseBytes [i] field a = .ok (a.setByte i (UInt8.ofNat (scanned field))) := by
  rw [parseBytes, getline_last h.ne_nil h.dot_not_mem, ← ofInt_natCast]
  dsimp only
  rw [h.stoi_eq]
  rfl

/-- Four fields set the four bytes. -/
theorem assign_of_octets (prior : IPAddress) {f₃ f₂ f₁ f₀ : List Char} (h₃ : IsOctet f₃)
    (h₂ : IsOctet f₂) (h₁ : IsOctet f₁) (h₀ : IsOctet f₀) :
    assign prior (['.'].intercalate [f₃, f₂, f₁, f₀]) =
      .ok (ofOctets (UInt8.ofNat (scanned f₃)) (UInt8.ofNat (scanned f₂))
        (UInt8.ofNat (scanned f₁)) (UInt8.ofNat (scanned f₀))) := by
  have hvalid := validate_iff.mpr ⟨f₃, f₂, f₁, f₀, ⟨h₃, h₂, h₁, h₀⟩, rfl⟩
  have hstream : ['.'].intercalate [f₃, f₂, f₁, f₀] =
      f₃ ++ '.' :: (f₂ ++ '.' :: (f₁ ++ '.' :: f₀)) := by
    simp [List.intercalate_cons_cons]
  unfold assign
  rw [hvalid, hstream]
  change parseString prior _ = _
  unfold parseString
  rw [parseBytes_append h₃, parseBytes_append h₂, parseBytes_append h₁, parseBytes_last h₀,
    setByte_eq_ofOctets]

/-! ## Printing -/

theorem isOctet_toDigits (b : UInt8) : IsOctet (Nat.toDigits 10 b.toNat) where
  ne_nil := Nat.toDigits_ne_nil
  length_le := (Nat.length_toDigits_le_iff (by decide) (by decide)).mpr
    (b.toNat_lt.trans (by decide))
  isDigit := fun _ hc => Nat.isDigit_of_mem_toDigits (by decide) (by decide) hc
  number_le := by
    rw [number_ten fun _ hc => Nat.isDigit_of_mem_toDigits (by decide) (by decide) hc,
      Nat.ofDigitChars_ten_toDigits]
    exact Nat.le_of_lt_succ b.toNat_lt

theorem number_toDigits (n : Nat) : number 10 (Nat.toDigits 10 n) = n := by
  rw [number_ten fun _ hc => Nat.isDigit_of_mem_toDigits (by decide) (by decide) hc,
    Nat.ofDigitChars_ten_toDigits]

/-- A printed octet has no leading zero, or is zero. -/
theorem scanned_toDigits (b : UInt8) : scanned (Nat.toDigits 10 b.toNat) = b.toNat := by
  have hhead : ∀ n < 256, (Nat.toDigits 10 n).head? ≠ some '0' ∨ n < 8 := by decide +kernel
  have h := (scanned_eq_iff (Nat.toDigits 10 b.toNat)).mpr
  rw [number_toDigits] at h
  exact h (hhead _ b.toNat_lt)

theorem toString_eq (a : IPAddress) :
    a.toString = ['.'].intercalate (a.octets.map (Nat.toDigits 10)) := by
  unfold toString octets
  simp [List.intercalate_cons_cons]

theorem fields_toString (a : IPAddress) : (fields a.toString).map (number 10) = a.octets := by
  have hdots : ∀ field ∈ a.octets.map (Nat.toDigits 10), '.' ∉ field := by
    intro field hfield
    obtain ⟨n, hn, rfl⟩ := List.mem_map.mp hfield
    exact fun hdot => absurd (Nat.isDigit_of_mem_toDigits (by decide) (by decide) hdot) (by decide)
  unfold fields
  rw [toString_eq, List.splitOn_intercalate '.' hdots (by simp [octets]), List.map_map]
  have hid : (number 10 ∘ Nat.toDigits 10) = id := funext number_toDigits
  rw [hid, List.map_id]

/-- What is printed is read back. -/
theorem assign_toString (a prior : IPAddress) : assign prior a.toString = .ok a := by
  have hoctets : a.octets.map (Nat.toDigits 10) = [Nat.toDigits 10 (a.byte 3).toNat,
      Nat.toDigits 10 (a.byte 2).toNat, Nat.toDigits 10 (a.byte 1).toNat,
      Nat.toDigits 10 (a.byte 0).toNat] := rfl
  rw [toString_eq, hoctets, assign_of_octets prior (isOctet_toDigits _) (isOctet_toDigits _)
    (isOctet_toDigits _) (isOctet_toDigits _)]
  simp only [scanned_toDigits, UInt8.ofNat_toNat, ofOctets_byte]

/-! ## Meaning -/

/-- **Parsing means what the string says** exactly if no field has a leading zero before a number of
    8 or more; what an address prints always does. -/
theorem means_iff {s : List Char} (h : validate s = .ok ()) :
    (Means s ↔ ∀ field ∈ fields s, field.head? ≠ some '0' ∨ number 10 field < 8) ∧
      ∀ a prior : IPAddress, ofString a.toString = .ok a ∧ assign prior a.toString = .ok a := by
  refine ⟨?_, fun a prior => ⟨assign_toString a ⟨0⟩, assign_toString a prior⟩⟩
  obtain ⟨f₃, f₂, f₁, f₀, ⟨h₃, h₂, h₁, h₀⟩, rfl⟩ := validate_iff.mp h
  have hfields : fields (['.'].intercalate [f₃, f₂, f₁, f₀]) = [f₃, f₂, f₁, f₀] := by
    refine List.splitOn_intercalate '.' ?_ (List.cons_ne_nil _ _)
    simp only [List.forall_mem_cons]
    exact ⟨h₃.dot_not_mem, h₂.dot_not_mem, h₁.dot_not_mem, h₀.dot_not_mem,
      fun _ h => absurd h List.not_mem_nil⟩
  have hassign (prior : IPAddress) := assign_of_octets prior h₃ h₂ h₁ h₀
  generalize ha : ofOctets (UInt8.ofNat (scanned f₃)) (UInt8.ofNat (scanned f₂))
    (UInt8.ofNat (scanned f₁)) (UInt8.ofNat (scanned f₀)) = a at hassign
  have hoctets : a.octets = [f₃, f₂, f₁, f₀].map scanned := by
    have hbyte {field : List Char} (hfield : IsOctet field) :
        (UInt8.ofNat (scanned field)).toNat = scanned field :=
      UInt8.toNat_ofNat_of_lt' (Nat.lt_succ_of_le ((scanned_le field).trans hfield.number_le))
    rw [← ha, octets_ofOctets]
    simp only [List.map_cons, List.map_nil, hbyte h₃, hbyte h₂, hbyte h₁, hbyte h₀]
  have hmeans : a.octets = [f₃, f₂, f₁, f₀].map (number 10) ↔
      ∀ field ∈ [f₃, f₂, f₁, f₀], field.head? ≠ some '0' ∨ number 10 field < 8 := by
    rw [hoctets, List.map_inj_left]
    exact forall₂_congr fun field _ => scanned_eq_iff field
  rw [hfields, ← hmeans]
  constructor
  · rintro ⟨b, hb, -, hdecimal, -⟩
    obtain rfl := Except.ok.inj (hb.symm.trans (hassign ⟨0⟩))
    rwa [hfields] at hdecimal
  · intro hdecimal
    refine ⟨a, hassign ⟨0⟩, hassign, ?_, ?_, assign_toString a ⟨0⟩⟩
    · rwa [hfields]
    · rwa [fields_toString, hfields]

/-- `127.0.0.1`, and zeros that do no harm. -/
theorem means_localhost : Means "127.000.07.1".toList := by
  refine (means_iff (by decide +kernel)).1.mpr ?_
  decide +kernel

/-- `010.0.0.1` is 8.0.0.1. -/
theorem not_forall_means : ¬ ∀ s, validate s = .ok () → Means s := by
  intro h
  obtain ⟨a, ha, -, hoctets, -⟩ := h "010.0.0.1".toList (by decide +kernel)
  have hread : ofString "010.0.0.1".toList = .ok ⟨0x08000001⟩ := by decide +kernel
  obtain rfl := Except.ok.inj (ha.symm.trans hread)
  exact absurd hoctets (by decide +kernel)

end IPAddress

end Navtech.Utility
