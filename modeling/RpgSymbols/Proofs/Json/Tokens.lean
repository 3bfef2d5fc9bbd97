import Mathlib.Algebra.Group.Nat.Defs
import Mathlib.Data.List.Forall2
import RpgSymbols.Json.Parser
import RpgSymbols.Json.Printer
import RpgSymbols.Number.Word

/-!
Strings and whole numbers are read back from their written forms. A character of a string is written
as one unit, itself or the code of a control character, and units join to the characters they stand
for. A whole number is read to its end when no digit, point or exponent follows it.
-/

namespace RpgSymbols

def Printed (chars : List Char) : Prop := ∀ c ∈ chars, 0x20 ≤ c.toNat

instance (chars : List Char) : Decidable (Printed chars) :=
  List.decidableBAll _ chars

theorem Printed.cons {c : Char} {chars : List Char} (first : 0x20 ≤ c.toNat)
    (later : Printed chars) : Printed (c :: chars) := List.forall_mem_cons.mpr ⟨first, later⟩

theorem Printed.append {one other : List Char} (first : Printed one) (second : Printed other) :
    Printed (one ++ other) := List.forall_mem_append.mpr ⟨first, second⟩

namespace Text

theorem hex_value_digit : ∀ value : Fin 16, hexValue? (hexDigit value) = some value.val := by
  decide

theorem hex_number_append (chars : List Char) (last : Char) :
    hexNumber? (chars ++ [last]) =
      (hexNumber? chars).bind fun total => (hexValue? last).map fun value => total * 16 + value := by
  rw [hexNumber?, List.foldl_append, ← hexNumber?]
  cases hexNumber? chars with
  | none => rfl
  | some total => cases value : hexValue? last <;> simp [value]

theorem hex_number_digits (width value : Nat) :
    hexNumber? (hexDigits width value) = some (value % 16 ^ width) := by
  induction width generalizing value with
  | zero => simp [hexDigits, hexNumber?, Nat.mod_one]
  | succ width induction =>
      have last := hex_value_digit ⟨value % 16, Nat.mod_lt _ (by decide)⟩
      have total : value / 16 % 16 ^ width * 16 + value % 16 = value % 16 ^ (width + 1) := by
        rw [Nat.pow_succ', Nat.mod_mul]
        omega
      rw [hexDigits, hex_number_append, induction, last]
      exact congrArg some total

theorem hex_digit_printed : ∀ value : Fin 16, 0x20 ≤ (hexDigit value).toNat := by
  decide

theorem hex_digits_printed (width value : Nat) : Printed (hexDigits width value) := by
  induction width generalizing value with
  | zero => exact List.forall_mem_nil _
  | succ width induction =>
      have last := hex_digit_printed ⟨value % 16, Nat.mod_lt _ (by decide)⟩
      exact (induction (value / 16)).append (.cons last (List.forall_mem_nil _))

end Text

namespace Number

theorem digit_char_digit : ∀ value : Fin 10,
    isDigit (digitChar value) = true ∧ digitValue (digitChar value) = value.val := by
  decide

theorem digits_are_digits (n : Nat) : ∀ c ∈ digits n, isDigit c = true := by
  induction n using Nat.strongRecOn with
  | ind n smaller =>
      rw [digits]
      split
      case isTrue small =>
        exact fun c listed => List.mem_singleton.mp listed ▸ (digit_char_digit ⟨n, small⟩).1
      case isFalse large =>
        intro c listed
        rcases List.mem_append.mp listed with earlier | last
        · exact smaller (n / 10) (by omega) c earlier
        · exact List.mem_singleton.mp last ▸ (digit_char_digit ⟨n % 10, by omega⟩).1

theorem of_digits_append (chars : List Char) (last : Char) :
    ofDigits (chars ++ [last]) = ofDigits chars * 10 + digitValue last := by
  simp [ofDigits, ofDigitValues]

theorem of_digits_digits (n : Nat) : ofDigits (digits n) = n := by
  induction n using Nat.strongRecOn with
  | ind n smaller =>
      rw [digits]
      split
      case isTrue small =>
        have value : digitValue (digitChar n) = n := (digit_char_digit ⟨n, small⟩).2
        simp [ofDigits, ofDigitValues, value]
      case isFalse large =>
        have value : digitValue (digitChar (n % 10)) = n % 10 :=
          (digit_char_digit ⟨n % 10, by omega⟩).2
        rw [of_digits_append, smaller (n / 10) (by omega), value]
        omega

/-- Only zero begins with a zero. -/
theorem digits_head (n : Nat) :
    ∃ first rest, digits n = first :: rest ∧ (first = '0' → n = 0 ∧ rest = []) := by
  induction n using Nat.strongRecOn with
  | ind n smaller =>
      rw [digits]
      split
      case isTrue small =>
        refine ⟨digitChar n, [], rfl, fun zero => ⟨?_, rfl⟩⟩
        have value : digitValue (digitChar n) = n := (digit_char_digit ⟨n, small⟩).2
        rw [← value, zero]
        rfl
      case isFalse large =>
        obtain ⟨first, rest, written, leading⟩ := smaller (n / 10) (by omega)
        refine ⟨first, rest ++ [digitChar (n % 10)], by rw [written, List.cons_append], ?_⟩
        intro zero
        have impossible := (leading zero).1
        omega

theorem int_digits_head (value : Int) :
    ∃ first rest, intDigits value = first :: rest ∧ (first = '-' ∨ isDigit first = true) := by
  obtain ⟨first, rest, written, -⟩ := digits_head value.natAbs
  have numeric : isDigit first = true :=
    digits_are_digits value.natAbs first (written ▸ List.mem_cons_self)
  rw [intDigits]
  split
  · exact ⟨'-', digits value.natAbs, rfl, .inl rfl⟩
  · exact ⟨first, rest, written, .inr numeric⟩

theorem int_digits_printed (value : Int) : Printed (intDigits value) := by
  have inside : Printed (digits value.natAbs) := by
    intro c listed
    have digit := digits_are_digits value.natAbs c listed
    simp only [isDigit, Bool.and_eq_true, decide_eq_true_eq] at digit
    omega
  rw [intDigits]
  split
  · exact .cons (by decide) inside
  · exact inside

end Number

namespace Json

open Text Number

section Strings

/-- A unit of a string stands for a character, either as itself or as the code of a control
character. -/
inductive StandsFor : StringUnit → Char → Prop where
  | char (c : Char) : StandsFor (.char c) c
  | code {c : Char} (control : c.toNat < 0x20) : StandsFor (.code c.toNat) c

theorem no_surrogate {code : Nat} (control : code < 0x20) :
    isHighSurrogate code = false ∧ isLowSurrogate code = false := by
  constructor
  · simp only [isHighSurrogate, Bool.and_eq_false_iff, decide_eq_false_iff_not]
    omega
  · simp only [isLowSurrogate, Bool.and_eq_false_iff, decide_eq_false_iff_not]
    omega

theorem join_units {units : List StringUnit} {chars : List Char}
    (stand : List.Forall₂ StandsFor units chars) : joinUnits units = some chars := by
  induction stand with
  | nil => rfl
  | @cons unit c units chars stands later induction =>
      cases stands with
      | char => rw [joinUnits, induction, Option.map_some]
      | code control =>
          obtain ⟨notHigh, notLow⟩ := no_surrogate control
          -- a code is looked at together with the unit after it
          cases later with
          | nil => simp [joinUnits, notHigh, notLow]
          | @cons next c units chars stands later =>
              cases next with
              | char c =>
                  rw [joinUnits, induction]
                  · simp [notHigh, notLow]
                  · simp
              | code low => simp [joinUnits, notHigh, notLow, induction]

theorem read_short {letter c : Char} (known : shortEscape? letter = some c) (rest : List Char) :
    readUnits ('\\' :: letter :: rest) =
      (readUnits rest).map fun later => (.char c :: later.1, later.2) := by
  have numbered : letter ≠ 'u' := by
    rintro rfl
    cases known
  rw [readUnits, known]
  · cases readUnits rest <;> rfl
  · simp [numbered]

theorem read_code {code : Nat} (control : code < 0x20) (rest : List Char) :
    readUnits ('\\' :: 'u' :: hexDigits 4 code ++ rest) =
      (readUnits rest).map fun later => (.code code :: later.1, later.2) := by
  have number : hexNumber? (hexDigits 4 code) = some code := by
    rw [hex_number_digits, Nat.mod_eq_of_lt (by omega)]
  simp only [hexDigits, List.nil_append, List.cons_append] at number ⊢
  rw [readUnits, number]
  cases readUnits rest <;> rfl

theorem read_plain {c : Char} (quote : c ≠ '"') (escape : c ≠ '\\') (printed : ¬ c.toNat < 0x20)
    (rest : List Char) :
    readUnits (c :: rest) = (readUnits rest).map fun later => (.char c :: later.1, later.2) := by
  rw [readUnits]
  · simp only [beq_eq_false_iff_ne.mpr escape, decide_eq_false printed, Bool.or_false,
      Bool.false_eq_true, if_false]
    cases readUnits rest <;> rfl
  · exact quote
  · simp [escape]
  · simp [escape]

/-- The letter of each short escape names the character it is written for. -/
theorem read_escaped (c : Char) (rest : List Char) :
    ∃ unit, StandsFor unit c ∧
      readUnits (escapedChar c ++ rest) =
        (readUnits rest).map fun later => (unit :: later.1, later.2) := by
  unfold escapedChar
  simp only [beq_iff_eq]
  split_ifs with quote escape feed tab back bell page control
  · exact ⟨_, .char c, read_short (by rw [quote]; rfl) rest⟩
  · exact ⟨_, .char c, read_short (by rw [escape]; rfl) rest⟩
  · exact ⟨_, .char c, read_short (by rw [feed]; rfl) rest⟩
  · exact ⟨_, .char c, read_short (by rw [tab]; rfl) rest⟩
  · exact ⟨_, .char c, read_short (by rw [back]; rfl) rest⟩
  · have named : shortEscape? 'b' = some c := by rw [← Char.ofNat_toNat c, bell]; rfl
    exact ⟨_, .char c, read_short named rest⟩
  · have named : shortEscape? 'f' = some c := by rw [← Char.ofNat_toNat c, page]; rfl
    exact ⟨_, .char c, read_short named rest⟩
  · exact ⟨_, .code control, read_code control rest⟩
  · exact ⟨_, .char c, read_plain quote escape control rest⟩

theorem read_units (chars rest : List Char) :
    ∃ units, List.Forall₂ StandsFor units chars ∧
      readUnits (chars.flatMap escapedChar ++ '"' :: rest) = some (units, rest) := by
  induction chars with
  | nil => exact ⟨[], .nil, rfl⟩
  | cons c chars induction =>
      obtain ⟨units, stand, read⟩ := induction
      obtain ⟨unit, stands, escaped⟩ := read_escaped c (chars.flatMap escapedChar ++ '"' :: rest)
      refine ⟨unit :: units, .cons stands stand, ?_⟩
      rw [List.flatMap_cons, List.append_assoc, escaped, read, Option.map_some]

theorem read_string (chars rest : List Char) :
    readString (chars.flatMap escapedChar ++ '"' :: rest) = some (chars, rest) := by
  obtain ⟨units, stand, read⟩ := read_units chars rest
  rw [readString, read]
  simp [join_units stand]

theorem escaped_printed (c : Char) : Printed (escapedChar c) := by
  unfold escapedChar
  split_ifs with quote escape feed tab back bell page control
  · decide
  · decide
  · decide
  · decide
  · decide
  · decide
  · decide
  · exact .cons (by decide) (.cons (by decide) (hex_digits_printed 4 c.toNat))
  · exact .cons (by omega) (List.forall_mem_nil _)

theorem characters_printed (chars : List Char) : Printed (chars.flatMap escapedChar) := by
  intro c listed
  obtain ⟨source, -, written⟩ := List.mem_flatMap.mp listed
  exact escaped_printed source c written

theorem string_printed (text : String) : Printed (stringChars text) :=
  .cons (by decide) ((characters_printed text.toList).append (by decide))

end Strings

section Numbers

/-- What may follow a whole number: nothing that could be a part of it. -/
def EndsNumber (rest : List Char) : Prop :=
  ∀ c ∈ rest.head?, isDigit c = false ∧ c ≠ '.' ∧ c ≠ 'e' ∧ c ≠ 'E'

variable {rest : List Char}

section Digits

variable (stops : ∀ c ∈ rest.head?, isDigit c = false)
include stops

theorem take_no_digits : rest.takeWhile isDigit = [] := by
  cases rest with
  | nil => rfl
  | cons c rest => rw [List.takeWhile_cons, stops c rfl]; rfl

theorem drop_no_digits : rest.dropWhile isDigit = rest := by
  cases rest with
  | nil => rfl
  | cons c rest => rw [List.dropWhile_cons, stops c rfl]; rfl

theorem read_digits {first : Char} {chars : List Char}
    (numeric : ∀ c ∈ first :: chars, isDigit c = true) :
    readDigits (first :: chars ++ rest) = some (first :: chars, rest) := by
  have taken : (first :: chars ++ rest).takeWhile isDigit = first :: chars := by
    rw [List.takeWhile_append_of_pos numeric, take_no_digits stops, List.append_nil]
  have dropped : (first :: chars ++ rest).dropWhile isDigit = rest := by
    rw [List.dropWhile_append_of_pos numeric, drop_no_digits stops]
  rw [readDigits, taken, dropped]

end Digits

theorem EndsNumber.stops (ends : EndsNumber rest) : ∀ c ∈ rest.head?, isDigit c = false :=
  fun c leads => (ends c leads).1

theorem read_whole_part (n : Nat) (ends : EndsNumber rest) :
    readWholePart (digits n ++ rest) = some (digits n, rest) := by
  obtain ⟨first, others, written, leading⟩ := digits_head n
  by_cases zero : first = '0'
  · obtain ⟨_, rfl⟩ := leading zero
    rw [written, zero]
    rfl
  · have numeric := digits_are_digits n
    rw [written] at numeric ⊢
    rw [List.cons_append, readWholePart]
    · exact read_digits ends.stops numeric
    · simp [zero]

theorem read_no_fraction (ends : EndsNumber rest) : readFraction rest = some ([], rest) := by
  cases rest with
  | nil => rfl
  | cons c rest =>
      have point := (ends c rfl).2.1
      rw [readFraction]
      simp [point]

theorem read_no_exponent (ends : EndsNumber rest) : readExponent rest = some ([], rest) := by
  cases rest with
  | nil => rfl
  | cons c rest =>
      obtain ⟨-, -, lower, upper⟩ := ends c rfl
      cases rest <;> simp [readExponent, lower, upper]

theorem read_unsigned (negative : Bool) (n : Nat) {value : Json}
    (means : numberValue negative (digits n) [] = some value) (ends : EndsNumber rest) :
    readUnsigned negative (digits n ++ rest) = some (value, rest) := by
  simp [readUnsigned, read_whole_part n ends, read_no_fraction ends, read_no_exponent ends, means]

theorem number_value_negative {n : Nat} (bound : n ≤ 0x8000000000000000) :
    numberValue true (digits n) [] = some (.int (-n)) := by
  simp [numberValue, of_digits_digits, bound]

theorem number_value_positive {n : Nat} (bound : n ≤ 0xFFFFFFFFFFFFFFFF) :
    numberValue false (digits n) [] = some (.int n) := by
  simp [numberValue, of_digits_digits, bound]

theorem read_number {value : Int} (fits : fitsWord value = true) (ends : EndsNumber rest) :
    readNumber (intDigits value ++ rest) = some (.int value, rest) := by
  simp only [fitsWord, Bool.and_eq_true, decide_eq_true_eq] at fits
  rw [intDigits]
  split
  case isTrue negative =>
    have magnitude : -(value.natAbs : Int) = value := by omega
    have means := number_value_negative (n := value.natAbs) (by omega)
    rw [List.cons_append, readNumber, read_unsigned true _ means ends, magnitude]
  case isFalse positive =>
    have magnitude : (value.natAbs : Int) = value := by omega
    have means := number_value_positive (n := value.natAbs) (by omega)
    obtain ⟨first, others, written, -⟩ := digits_head value.natAbs
    have numeric : isDigit first = true :=
      digits_are_digits value.natAbs first (written ▸ List.mem_cons_self)
    rw [readNumber, read_unsigned false _ means ends, magnitude]
    rw [written]
    rintro later same
    cases same
    cases numeric

end Numbers

end Json

end RpgSymbols
