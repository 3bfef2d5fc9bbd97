import Mathlib.Data.List.Induction
import RpgSymbols.Proofs.Json.Readers

/-!
The grammar of JSON texts. A text is read exactly if it spells a value between two gaps, and then that
value is read. Tokens are what the readers take them for: a string up to its closing quote, and a
number that nothing follows which could be a part of it. No token has a control character.
-/

namespace RpgSymbols.Json

open Text Number

/-! Strings. -/

/-- The rest of a string behind its opening quote: it is read in the same way whatever follows. -/
structure SpellsString (text value : List Char) : Prop where
  printed : Printed text
  reads : ∀ rest, readString (text ++ rest) = some (value, rest)

theorem hex_value_printed {c : Char} {value : Nat} (known : hexValue? c = some value) :
    0x20 ≤ c.toNat := by
  unfold hexValue? at known
  simp only [Bool.and_eq_true, decide_eq_true_eq] at known
  split_ifs at known with digit capital small
  · omega
  · omega
  · omega

theorem hex_number_printed {digits : List Char} {value : Nat}
    (known : hexNumber? digits = some value) : Printed digits := by
  induction digits using List.reverseRecOn generalizing value with
  | nil => exact List.forall_mem_nil _
  | append_singleton front last induction =>
      rw [hex_number_append, Option.bind_eq_some_iff] at known
      obtain ⟨total, read, ends⟩ := known
      obtain ⟨digit, digitKnown, _⟩ := Option.map_eq_some_iff.mp ends
      exact (induction read).append
        (.cons (hex_value_printed digitKnown) (List.forall_mem_nil _))

theorem short_escape_printed {letter c : Char} (known : shortEscape? letter = some c) :
    0x20 ≤ letter.toNat := by
  unfold shortEscape? at known
  split at known
  all_goals first | decide | cases known

theorem read_numbered {a b c d : Char} {code : Nat} (known : hexNumber? [a, b, c, d] = some code)
    (rest : List Char) :
    readUnits ('\\' :: 'u' :: a :: b :: c :: d :: rest) =
      (readUnits rest).map fun later => (.code code :: later.1, later.2) := by
  rw [readUnits, known]
  cases readUnits rest <;> rfl

theorem read_units_spelled {chars rest : List Char} {units : List StringUnit}
    (reads : readUnits chars = some (units, rest)) :
    ∃ text, chars = text ++ rest ∧ Printed text ∧
      ∀ other, readUnits (text ++ other) = some (units, other) := by
  fun_induction readUnits chars generalizing units with
  | case1 => cases reads
  | case2 later =>
      cases reads
      exact ⟨['"'], rfl, by decide, fun _ => rfl⟩
  | case3 a b c d later induction =>
      simp only [bind, Option.bind_eq_some_iff] at reads
      obtain ⟨code, known, ⟨others, after⟩, inner, same⟩ := reads
      cases same
      obtain ⟨text, rfl, printed, again⟩ := induction inner
      refine ⟨'\\' :: 'u' :: a :: b :: c :: d :: text, rfl, ?_, ?_⟩
      · exact .cons (by decide) (.cons (by decide) ((hex_number_printed known).append printed))
      · intro other
        simp only [List.cons_append, read_numbered known, again, Option.map_some]
  | case4 letter later unnumbered induction =>
      simp only [bind, Option.bind_eq_some_iff] at reads
      obtain ⟨c, known, ⟨others, after⟩, inner, same⟩ := reads
      cases same
      obtain ⟨text, rfl, printed, again⟩ := induction inner
      refine ⟨'\\' :: letter :: text, rfl, ?_, ?_⟩
      · exact .cons (by decide) (.cons (short_escape_printed known) printed)
      · intro other
        simp only [List.cons_append, read_short known, again, Option.map_some]
  | case5 => cases reads
  | case6 c later quote unnumbered short plain induction =>
      simp only [Bool.or_eq_true, beq_iff_eq, decide_eq_true_eq, not_or] at plain
      simp only [bind, Option.bind_eq_some_iff] at reads
      obtain ⟨⟨others, after⟩, inner, same⟩ := reads
      cases same
      obtain ⟨text, rfl, printed, again⟩ := induction inner
      refine ⟨c :: text, rfl, .cons (Nat.le_of_not_lt plain.2) printed, ?_⟩
      intro other
      rw [List.cons_append, read_plain quote plain.1 plain.2, again, Option.map_some]

/-- A string that is read ends at its closing quote. -/
theorem read_string_spelled {chars rest value : List Char}
    (reads : readString chars = some (value, rest)) :
    ∃ text, chars = text ++ rest ∧ SpellsString text value := by
  simp only [readString, bind, Option.bind_eq_some_iff] at reads
  obtain ⟨⟨units, after⟩, read, value, joined, same⟩ := reads
  cases same
  obtain ⟨text, rfl, printed, again⟩ := read_units_spelled read
  refine ⟨text, rfl, printed, fun other => ?_⟩
  simp only [readString, again, bind, Option.bind_some, joined]

/-! Numbers. -/

/-- A number: it is read in the same way before whatever cannot be a part of it. -/
structure SpellsNumber (text : List Char) (value : Json) : Prop where
  printed : Printed text
  starts : ∃ first others, text = first :: others ∧ (first = '-' ∨ isDigit first = true)
  reads : ∀ rest, EndsNumber rest → readNumber (text ++ rest) = some (value, rest)

theorem digits_printed {chars : List Char} (numeric : ∀ c ∈ chars, isDigit c = true) :
    Printed chars := by
  intro c listed
  have digit := numeric c listed
  simp only [isDigit, Bool.and_eq_true, decide_eq_true_eq] at digit
  omega

theorem read_digits_spelled {chars digits rest : List Char}
    (reads : readDigits chars = some (digits, rest)) :
    chars = digits ++ rest ∧ digits ≠ [] ∧ ∀ c ∈ digits, isDigit c = true := by
  unfold readDigits at reads
  split at reads
  · cases reads
  · rename_i some
    cases reads
    exact ⟨(List.takeWhile_append_dropWhile (p := isDigit)).symm, some,
      fun _ => List.mem_takeWhile_imp⟩

theorem read_digits_again {digits other : List Char} (some : digits ≠ [])
    (numeric : ∀ c ∈ digits, isDigit c = true) (stops : ∀ c ∈ other.head?, isDigit c = false) :
    readDigits (digits ++ other) = Option.some (digits, other) := by
  obtain ⟨first, later, rfl⟩ := List.exists_cons_of_ne_nil some
  exact read_digits stops numeric

theorem read_whole_spelled {chars whole rest : List Char}
    (reads : readWholePart chars = some (whole, rest)) :
    chars = whole ++ rest ∧ whole ≠ [] ∧ (∀ c ∈ whole, isDigit c = true) ∧
      ∀ other, (∀ c ∈ other.head?, isDigit c = false) →
        readWholePart (whole ++ other) = some (whole, other) := by
  unfold readWholePart at reads
  split at reads
  · cases reads
    exact ⟨rfl, by simp, List.forall_mem_singleton.mpr rfl, fun _ _ => rfl⟩
  · rename_i nonzero
    obtain ⟨rfl, some, numeric⟩ := read_digits_spelled reads
    refine ⟨rfl, some, numeric, ?_⟩
    intro other stops
    rw [readWholePart]
    · exact read_digits_again some numeric stops
    · intro later same
      obtain ⟨first, others, rfl⟩ := List.exists_cons_of_ne_nil some
      cases same
      exact nonzero _ rfl

theorem read_fraction_spelled {chars fraction rest : List Char}
    (reads : readFraction chars = some (fraction, rest)) :
    chars = fraction ++ rest ∧ Printed fraction ∧ (∀ c ∈ fraction.head?, c = '.') ∧
      ∀ other, (∀ c ∈ other.head?, isDigit c = false ∧ c ≠ '.') →
        readFraction (fraction ++ other) = some (fraction, other) := by
  unfold readFraction at reads
  split at reads
  · rename_i behind
    obtain ⟨⟨digits, after⟩, read, same⟩ := Option.map_eq_some_iff.mp reads
    cases same
    obtain ⟨rfl, some, numeric⟩ := read_digits_spelled read
    refine ⟨rfl, .cons (by decide) (digits_printed numeric), by simp, ?_⟩
    intro other ends
    rw [List.cons_append, readFraction,
      read_digits_again some numeric fun c leads => (ends c leads).1, Option.map_some]
  · cases reads
    refine ⟨rfl, List.forall_mem_nil _, by simp, ?_⟩
    intro other ends
    rw [List.nil_append, readFraction]
    rintro later rfl
    exact (ends '.' rfl).2 rfl

theorem exponent_mark_printed {mark : Char} (marks : mark = 'e' ∨ mark = 'E') :
    0x20 ≤ mark.toNat := by
  rcases marks with rfl | rfl <;> decide

theorem sign_not_digit {sign : Char} (signs : sign = '+' ∨ sign = '-') : isDigit sign = false := by
  rcases signs with rfl | rfl <;> rfl

theorem read_signed_exponent {mark sign : Char} (marks : mark = 'e' ∨ mark = 'E')
    (signs : sign = '+' ∨ sign = '-') (chars : List Char) :
    readExponent (mark :: sign :: chars) =
      (readDigits chars).map fun (digits, rest) => (mark :: sign :: digits, rest) := by
  simp [readExponent, marks, signs]

theorem read_plain_exponent {mark first : Char} (marks : mark = 'e' ∨ mark = 'E')
    (unsigned : ¬ (first = '+' ∨ first = '-')) (chars : List Char) :
    readExponent (mark :: first :: chars) =
      (readDigits (first :: chars)).map fun (digits, rest) => (mark :: digits, rest) := by
  simp [readExponent, marks, unsigned]

theorem read_exponent_spelled {chars exponent rest : List Char}
    (reads : readExponent chars = some (exponent, rest)) :
    chars = exponent ++ rest ∧ Printed exponent ∧ (∀ c ∈ exponent.head?, c = 'e' ∨ c = 'E') ∧
      ∀ other, EndsNumber other → readExponent (exponent ++ other) = some (exponent, other) := by
  match chars with
  | [] =>
      cases reads
      exact ⟨rfl, List.forall_mem_nil _, by simp, fun _ => read_no_exponent⟩
  | [mark] =>
      by_cases marks : mark = 'e' ∨ mark = 'E'
      · simp [readExponent, marks] at reads
      · simp only [readExponent, Bool.or_eq_true, beq_iff_eq, marks, if_false] at reads
        cases reads
        exact ⟨rfl, List.forall_mem_nil _, by simp, fun _ => read_no_exponent⟩
  | mark :: sign :: later =>
      by_cases marks : mark = 'e' ∨ mark = 'E'
      · by_cases signs : sign = '+' ∨ sign = '-'
        · rw [read_signed_exponent marks signs] at reads
          obtain ⟨⟨digits, after⟩, read, same⟩ := Option.map_eq_some_iff.mp reads
          cases same
          obtain ⟨rfl, some, numeric⟩ := read_digits_spelled read
          have signPrinted : 0x20 ≤ sign.toNat := by rcases signs with rfl | rfl <;> decide
          refine ⟨rfl, .cons (exponent_mark_printed marks)
            (.cons signPrinted (digits_printed numeric)), by simpa using marks, ?_⟩
          intro other ends
          rw [List.cons_append, List.cons_append, read_signed_exponent marks signs,
            read_digits_again some numeric ends.stops, Option.map_some]
        · rw [read_plain_exponent marks signs] at reads
          obtain ⟨⟨digits, after⟩, read, same⟩ := Option.map_eq_some_iff.mp reads
          cases same
          obtain ⟨split, some, numeric⟩ := read_digits_spelled read
          refine ⟨by rw [split, List.cons_append],
            .cons (exponent_mark_printed marks) (digits_printed numeric), by simpa using marks, ?_⟩
          intro other ends
          obtain ⟨first, others, rfl⟩ := List.exists_cons_of_ne_nil some
          have unsigned : ¬ (first = '+' ∨ first = '-') := by
            intro signs
            exact Bool.noConfusion ((sign_not_digit signs).symm.trans
              (numeric first List.mem_cons_self))
          rw [List.cons_append, List.cons_append, read_plain_exponent marks unsigned,
            ← List.cons_append, read_digits_again some numeric ends.stops, Option.map_some]
      · simp only [readExponent, Bool.or_eq_true, beq_iff_eq, marks, if_false] at reads
        cases reads
        exact ⟨rfl, List.forall_mem_nil _, by simp, fun _ => read_no_exponent⟩

/-- What leads a text put before another leads both. -/
theorem head_of_append {property : Char → Prop} {one other : List Char}
    (first : ∀ c ∈ one.head?, property c) (second : ∀ c ∈ other.head?, property c) :
    ∀ c ∈ (one ++ other).head?, property c := by
  cases one with
  | nil => exact second
  | cons c later => exact first

theorem read_unsigned_spelled {negative : Bool} {chars rest : List Char} {value : Json}
    (reads : readUnsigned negative chars = some (value, rest)) :
    ∃ first text, chars = first :: (text ++ rest) ∧ isDigit first = true ∧
      Printed (first :: text) ∧ ∀ other, EndsNumber other →
        readUnsigned negative (first :: (text ++ other)) = some (value, other) := by
  simp only [readUnsigned, bind, Option.bind_eq_some_iff] at reads
  obtain ⟨⟨whole, behindWhole⟩, wholeRead, ⟨fraction, behindFraction⟩, fractionRead,
    ⟨exponent, behindExponent⟩, exponentRead, read, means, same⟩ := reads
  cases same
  obtain ⟨rfl, some, numeric, wholeAgain⟩ := read_whole_spelled wholeRead
  obtain ⟨rfl, fractionPrinted, point, fractionAgain⟩ := read_fraction_spelled fractionRead
  obtain ⟨rfl, exponentPrinted, mark, exponentAgain⟩ := read_exponent_spelled exponentRead
  obtain ⟨first, others, rfl⟩ := List.exists_cons_of_ne_nil some
  refine ⟨first, others ++ (fraction ++ exponent), by simp, numeric first List.mem_cons_self,
    (digits_printed numeric).append (fractionPrinted.append exponentPrinted), ?_⟩
  intro other ends
  have behindPoint : ∀ c ∈ (exponent ++ other).head?, isDigit c = false ∧ c ≠ '.' := by
    refine head_of_append (fun c leads => ?_) fun c leads => ⟨(ends c leads).1, (ends c leads).2.1⟩
    rcases mark c leads with rfl | rfl <;> exact ⟨rfl, by decide⟩
  have behindDigits : ∀ c ∈ (fraction ++ (exponent ++ other)).head?, isDigit c = false := by
    refine head_of_append (fun c leads => ?_) fun c leads => (behindPoint c leads).1
    rw [point c leads]
    rfl
  have wholeThere := wholeAgain _ behindDigits
  rw [List.cons_append] at wholeThere
  simp only [List.append_assoc, readUnsigned, wholeThere, fractionAgain _ behindPoint,
    exponentAgain other ends, means, bind, Option.bind_some]

/-- A number that is read ends where nothing more can be a part of it. -/
theorem read_number_spelled {chars rest : List Char} {value : Json}
    (reads : readNumber chars = some (value, rest)) :
    ∃ text, chars = text ++ rest ∧ SpellsNumber text value := by
  unfold readNumber at reads
  split at reads
  · obtain ⟨first, text, rfl, numeric, printed, again⟩ := read_unsigned_spelled reads
    exact ⟨'-' :: first :: text, rfl, .cons (by decide) printed, ⟨_, _, rfl, .inl rfl⟩, again⟩
  · obtain ⟨first, text, rfl, numeric, printed, again⟩ := read_unsigned_spelled reads
    refine ⟨first :: text, rfl, printed, ⟨_, _, rfl, .inr numeric⟩, fun other ends => ?_⟩
    rw [readNumber]
    · exact again other ends
    · rintro later same
      cases same
      cases numeric

/-! Values. -/

/-- The parts of a text: a value, the items behind the first one of an array up to the closing bracket,
a field, and the fields behind those so far of an object up to the closing brace. -/
inductive Phrase where
  | value (value : Json)
  | items (items : List Json)
  | field (key : String) (value : Json)
  | fields (sofar all : List (String × Json))

/-- A text spells a phrase where nesting is limited. -/
inductive Spells : Nat → List Char → Phrase → Prop where
  | null {limit : Nat} : Spells limit ['n', 'u', 'l', 'l'] (.value .null)
  | true {limit : Nat} : Spells limit ['t', 'r', 'u', 'e'] (.value (.bool .true))
  | false {limit : Nat} : Spells limit ['f', 'a', 'l', 's', 'e'] (.value (.bool .false))
  | string {limit : Nat} {text value : List Char} (spells : SpellsString text value) :
      Spells limit ('"' :: text) (.value (.str (String.ofList value)))
  | number {limit : Nat} {text : List Char} {value : Json} (spells : SpellsNumber text value) :
      Spells limit text (.value value)
  | emptyArray {limit : Nat} {gap : List Char} (blank : Gap gap) :
      Spells (limit + 1) ('[' :: (gap ++ [']'])) (.value (.arr []))
  | array {limit : Nat} {gap text rest : List Char} {item : Json} {items : List Json}
      (blank : Gap gap) (head : Spells limit text (.value item))
      (tail : Spells limit rest (.items items)) :
      Spells (limit + 1) ('[' :: (gap ++ (text ++ rest))) (.value (.arr (item :: items)))
  | lastItem {limit : Nat} {gap : List Char} (blank : Gap gap) :
      Spells limit (gap ++ [']']) (.items [])
  | nextItem {limit : Nat} {before gap text rest : List Char} {item : Json} {items : List Json}
      (early : Gap before) (blank : Gap gap) (head : Spells limit text (.value item))
      (tail : Spells limit rest (.items items)) :
      Spells limit (before ++ ',' :: (gap ++ (text ++ rest))) (.items (item :: items))
  | emptyObject {limit : Nat} {gap : List Char} (blank : Gap gap) :
      Spells (limit + 1) ('{' :: (gap ++ ['}'])) (.value (.obj []))
  | object {limit : Nat} {gap text rest : List Char} {key : String} {value : Json}
      {fields : List (String × Json)} (blank : Gap gap) (head : Spells limit text (.field key value))
      (tail : Spells limit rest (.fields [(key, value)] fields)) :
      Spells (limit + 1) ('{' :: (gap ++ (text ++ rest))) (.value (.obj fields))
  | field {limit : Nat} {name key before gap text : List Char} {value : Json}
      (named : SpellsString name key) (early : Gap before) (blank : Gap gap)
      (spells : Spells limit text (.value value)) :
      Spells limit ('"' :: (name ++ (before ++ ':' :: (gap ++ text))))
        (.field (String.ofList key) value)
  | lastField {limit : Nat} {gap : List Char} {sofar : List (String × Json)} (blank : Gap gap) :
      Spells limit (gap ++ ['}']) (.fields sofar sofar)
  | nextField {limit : Nat} {before gap text rest : List Char} {key : String} {value : Json}
      {sofar all : List (String × Json)} (early : Gap before) (blank : Gap gap)
      (head : Spells limit text (.field key value))
      (tail : Spells limit rest (.fields (Table.set key value sofar) all)) :
      Spells limit (before ++ ',' :: (gap ++ (text ++ rest))) (.fields sofar all)

/-! What is read is spelled. -/

/-- What the readers read with this much fuel is spelled by the characters they pass over. -/
structure ReadsSpelled (fuel : Nat) : Prop where
  value {limit : Nat} {chars rest : List Char} {value : Json}
    (reads : readValue fuel limit chars = some (value, rest)) :
    ∃ gap text, Gap gap ∧ chars = gap ++ (text ++ rest) ∧ Spells limit text (.value value)
  items {limit : Nat} {chars rest : List Char} {items : List Json}
    (reads : readItems fuel limit chars = some (items, rest)) :
    ∃ text, chars = text ++ rest ∧ Spells limit text (.items items)
  field {limit : Nat} {chars rest : List Char} {key : String} {value : Json}
    (reads : readField fuel limit chars = some (key, value, rest)) :
    ∃ gap text, Gap gap ∧ chars = gap ++ (text ++ rest) ∧ Spells limit text (.field key value)
  fields {limit : Nat} {chars rest : List Char} {sofar all : List (String × Json)}
    (reads : readFields fuel limit sofar chars = some (all, rest)) :
    ∃ text, chars = text ++ rest ∧ Spells limit text (.fields sofar all)

section Readers

variable {fuel limit : Nat} {chars rest : List Char}

theorem array_spelled (earlier : ReadsSpelled fuel) {value : Json}
    (reads : readValue (fuel + 1) limit ('[' :: chars) = some (value, rest)) :
    ∃ text, '[' :: chars = text ++ rest ∧ Spells limit text (.value value) := by
  rw [readValue, skip_solid rfl] at reads
  cases limit with
  | zero => cases reads
  | succ limit =>
      obtain ⟨gap, blank, split⟩ := gap_skipped chars
      simp only [bind] at reads
      split at reads
      · rename_i behind empty
        cases reads
        exact ⟨'[' :: (gap ++ [']']), by rw [split, empty]; simp, .emptyArray blank⟩
      · simp only [Option.bind_eq_some_iff] at reads
        obtain ⟨⟨item, middle⟩, headRead, ⟨items, after⟩, tailRead, same⟩ := reads
        cases same
        obtain ⟨more, text, moreBlank, headSplit, head⟩ := earlier.value headRead
        obtain ⟨others, rfl, tail⟩ := earlier.items tailRead
        refine ⟨'[' :: ((gap ++ more) ++ (text ++ others)), ?_, .array (blank.append moreBlank) head tail⟩
        rw [split, headSplit]
        simp

theorem object_spelled (earlier : ReadsSpelled fuel) {value : Json}
    (reads : readValue (fuel + 1) limit ('{' :: chars) = some (value, rest)) :
    ∃ text, '{' :: chars = text ++ rest ∧ Spells limit text (.value value) := by
  rw [readValue, skip_solid rfl] at reads
  cases limit with
  | zero => cases reads
  | succ limit =>
      obtain ⟨gap, blank, split⟩ := gap_skipped chars
      simp only [bind] at reads
      split at reads
      · rename_i behind empty
        cases reads
        exact ⟨'{' :: (gap ++ ['}']), by rw [split, empty]; simp, .emptyObject blank⟩
      · simp only [Option.bind_eq_some_iff] at reads
        obtain ⟨⟨key, value, middle⟩, headRead, ⟨fields, after⟩, tailRead, same⟩ := reads
        cases same
        obtain ⟨more, text, moreBlank, headSplit, head⟩ := earlier.field headRead
        obtain ⟨others, rfl, tail⟩ := earlier.fields tailRead
        refine ⟨'{' :: ((gap ++ more) ++ (text ++ others)), ?_, .object (blank.append moreBlank) head tail⟩
        rw [split, headSplit]
        simp

theorem value_spelled (earlier : ReadsSpelled fuel) {value : Json}
    (reads : readValue (fuel + 1) limit chars = some (value, rest)) :
    ∃ gap text, Gap gap ∧ chars = gap ++ (text ++ rest) ∧ Spells limit text (.value value) := by
  obtain ⟨gap, blank, split⟩ := gap_skipped chars
  suffices spelled : ∃ text, skipGap chars = text ++ rest ∧ Spells limit text (.value value) by
    obtain ⟨text, same, spells⟩ := spelled
    exact ⟨gap, text, blank, by rw [← same, ← split], spells⟩
  have solidReads : readValue (fuel + 1) limit (skipGap chars) = some (value, rest) := by
    rwa [split, read_value_gap blank] at reads
  rw [readValue] at reads
  split at reads
  · rename_i behind same
    cases reads
    exact ⟨_, same, .null⟩
  · rename_i behind same
    cases reads
    exact ⟨_, same, .true⟩
  · rename_i behind same
    cases reads
    exact ⟨_, same, .false⟩
  · rename_i behind same
    obtain ⟨⟨name, after⟩, named, read⟩ := Option.map_eq_some_iff.mp reads
    cases read
    obtain ⟨text, rfl, spells⟩ := read_string_spelled named
    exact ⟨'"' :: text, same, .string spells⟩
  · rename_i behind same
    rw [same] at solidReads ⊢
    exact array_spelled earlier solidReads
  · rename_i behind same
    rw [same] at solidReads ⊢
    exact object_spelled earlier solidReads
  · obtain ⟨text, same, spells⟩ := read_number_spelled reads
    exact ⟨text, same, .number spells⟩

theorem items_spelled (earlier : ReadsSpelled fuel) {items : List Json}
    (reads : readItems (fuel + 1) limit chars = some (items, rest)) :
    ∃ text, chars = text ++ rest ∧ Spells limit text (.items items) := by
  obtain ⟨gap, blank, split⟩ := gap_skipped chars
  rw [readItems] at reads
  split at reads
  · rename_i behind same
    cases reads
    exact ⟨gap ++ [']'], by rw [split, same]; simp, .lastItem blank⟩
  · rename_i behind same
    simp only [bind, Option.bind_eq_some_iff] at reads
    obtain ⟨⟨item, middle⟩, headRead, ⟨others, after⟩, tailRead, read⟩ := reads
    cases read
    obtain ⟨more, text, moreBlank, rfl, head⟩ := earlier.value headRead
    obtain ⟨later, rfl, tail⟩ := earlier.items tailRead
    refine ⟨gap ++ ',' :: (more ++ (text ++ later)), ?_, .nextItem blank moreBlank head tail⟩
    rw [split, same]
    simp
  · cases reads

theorem field_spelled (earlier : ReadsSpelled fuel) {key : String} {value : Json}
    (reads : readField (fuel + 1) limit chars = some (key, value, rest)) :
    ∃ gap text, Gap gap ∧ chars = gap ++ (text ++ rest) ∧ Spells limit text (.field key value) := by
  obtain ⟨gap, blank, split⟩ := gap_skipped chars
  rw [readField] at reads
  split at reads
  · rename_i behind same
    simp only [bind, Option.bind_eq_some_iff] at reads
    obtain ⟨⟨name, afterName⟩, named, reads⟩ := reads
    obtain ⟨nameText, rfl, nameSpells⟩ := read_string_spelled named
    obtain ⟨before, early, nameSplit⟩ := gap_skipped afterName
    split at reads
    · rename_i afterColon colon
      simp only [Option.bind_eq_some_iff] at reads
      obtain ⟨⟨held, after⟩, valueRead, read⟩ := reads
      cases read
      obtain ⟨more, text, moreBlank, rfl, spells⟩ := earlier.value valueRead
      refine ⟨gap, '"' :: (nameText ++ (before ++ ':' :: (more ++ text))), blank, ?_,
        .field nameSpells early moreBlank spells⟩
      rw [split, same, nameSplit, colon]
      simp
    · cases reads
  · cases reads

theorem fields_spelled (earlier : ReadsSpelled fuel) {sofar all : List (String × Json)}
    (reads : readFields (fuel + 1) limit sofar chars = some (all, rest)) :
    ∃ text, chars = text ++ rest ∧ Spells limit text (.fields sofar all) := by
  obtain ⟨gap, blank, split⟩ := gap_skipped chars
  rw [readFields] at reads
  split at reads
  · rename_i behind same
    cases reads
    exact ⟨gap ++ ['}'], by rw [split, same]; simp, .lastField blank⟩
  · rename_i behind same
    simp only [bind, Option.bind_eq_some_iff] at reads
    obtain ⟨⟨key, value, middle⟩, headRead, tailRead⟩ := reads
    obtain ⟨more, text, moreBlank, rfl, head⟩ := earlier.field headRead
    obtain ⟨later, rfl, tail⟩ := earlier.fields tailRead
    refine ⟨gap ++ ',' :: (more ++ (text ++ later)), ?_, .nextField blank moreBlank head tail⟩
    rw [split, same]
    simp
  · cases reads

end Readers

theorem reads_spelled (fuel : Nat) : ReadsSpelled fuel := by
  induction fuel with
  | zero =>
      constructor <;> intros <;> rename_i reads
      · rw [readValue] at reads; cases reads
      · rw [readItems] at reads; cases reads
      · rw [readField] at reads; cases reads
      · rw [readFields] at reads; cases reads
  | succ fuel earlier =>
      exact ⟨value_spelled earlier, items_spelled earlier, field_spelled earlier, fields_spelled earlier⟩

/-! What is spelled is read. -/

structure ItemsReadBack (limit : Nat) (text : List Char) (items : List Json) : Prop where
  ends : ∀ rest, EndsNumber (text ++ rest)
  reads : ∀ {fuel : Nat} {rest : List Char}, text.length ≤ fuel →
    readItems fuel limit (text ++ rest) = some (items, rest)

structure FieldReadsBack (limit : Nat) (text : List Char) (key : String) (value : Json) : Prop where
  opens : ∃ others, text = '"' :: others
  reads : ∀ {fuel : Nat} {rest : List Char}, text.length ≤ fuel → EndsNumber rest →
    readField fuel limit (text ++ rest) = some (key, value, rest)

structure FieldsReadBack (limit : Nat) (text : List Char) (sofar all : List (String × Json)) :
    Prop where
  ends : ∀ rest, EndsNumber (text ++ rest)
  reads : ∀ {fuel : Nat} {rest : List Char}, text.length ≤ fuel →
    readFields fuel limit sofar (text ++ rest) = some (all, rest)

def PhraseReadsBack (limit : Nat) (text : List Char) : Phrase → Prop
  | .value value => ReadsBack limit text value
  | .items items => ItemsReadBack limit text items
  | .field key value => FieldReadsBack limit text key value
  | .fields sofar all => FieldsReadBack limit text sofar all

section Phrases

variable {limit : Nat} {before gap text others : List Char}

theorem number_reads_back {value : Json} (spells : SpellsNumber text value) :
    ReadsBack limit text value := by
  obtain ⟨first, rest, rfl, numeric⟩ := spells.starts
  refine .of_step (numeric_solid numeric) (by rintro rfl; simp [isDigit] at numeric) ?_
  intro fuel behind _ ends
  rw [read_numeric numeric]
  exact spells.reads behind ends

theorem empty_array_reads_back (blank : Gap gap) :
    ReadsBack (limit + 1) ('[' :: (gap ++ [']'])) (.arr []) := by
  refine .of_step rfl (by decide) fun _ _ => ?_
  rw [List.append_assoc, read_array_gap blank]
  exact read_array_empty

theorem array_reads_back {item : Json} {items : List Json} (blank : Gap gap)
    (head : ReadsBack limit text item) (tail : ItemsReadBack limit others items) :
    ReadsBack (limit + 1) ('[' :: (gap ++ (text ++ others))) (.arr (item :: items)) := by
  obtain ⟨first, later, written, solid, opens⟩ := head.opens
  refine .of_step rfl (by decide) ?_
  intro fuel rest enough _
  simp only [List.length_append] at enough
  have headReads := head.reads (by omega : text.length ≤ fuel) (tail.ends rest)
  simp only [List.append_assoc]
  rw [written, List.cons_append] at headReads ⊢
  exact read_array blank solid opens headReads (tail.reads (by omega))

theorem last_item_reads_back (blank : Gap gap) : ItemsReadBack limit (gap ++ [']']) [] := by
  constructor
  · intro rest
    rw [List.append_assoc]
    exact ends_number_behind blank (by simp)
  · intro fuel rest enough
    rw [List.length_append, List.length_singleton] at enough
    obtain ⟨fuel, rfl⟩ : ∃ less, fuel = less + 1 := ⟨fuel - 1, by omega⟩
    rw [List.append_assoc, read_items_gap blank, List.singleton_append, read_items_end]

theorem next_item_reads_back {item : Json} {items : List Json} (early : Gap before)
    (blank : Gap gap) (head : ReadsBack limit text item) (tail : ItemsReadBack limit others items) :
    ItemsReadBack limit (before ++ ',' :: (gap ++ (text ++ others))) (item :: items) := by
  constructor
  · intro rest
    rw [List.append_assoc]
    exact ends_number_behind early (by simp)
  · intro fuel rest enough
    simp only [List.length_append, List.length_cons] at enough
    obtain ⟨fuel, rfl⟩ : ∃ less, fuel = less + 1 := ⟨fuel - 1, by omega⟩
    simp only [List.append_assoc, List.cons_append]
    rw [read_items_gap early]
    apply read_items_more
    · rw [read_value_gap blank]
      exact head.reads (by omega) (tail.ends rest)
    · exact tail.reads (by omega)

theorem empty_object_reads_back (blank : Gap gap) :
    ReadsBack (limit + 1) ('{' :: (gap ++ ['}'])) (.obj []) := by
  refine .of_step rfl (by decide) fun _ _ => ?_
  rw [List.append_assoc, read_object_gap blank]
  exact read_object_empty

theorem object_reads_back {key : String} {value : Json} {fields : List (String × Json)}
    (blank : Gap gap) (head : FieldReadsBack limit text key value)
    (tail : FieldsReadBack limit others [(key, value)] fields) :
    ReadsBack (limit + 1) ('{' :: (gap ++ (text ++ others))) (.obj fields) := by
  obtain ⟨later, written⟩ := head.opens
  refine .of_step rfl (by decide) ?_
  intro fuel rest enough _
  simp only [List.length_append] at enough
  have headReads := head.reads (by omega : text.length ≤ fuel) (tail.ends rest)
  simp only [List.append_assoc]
  rw [written, List.cons_append] at headReads ⊢
  exact read_object blank headReads (tail.reads (by omega))

theorem field_reads_back {name key : List Char} {value : Json} (named : SpellsString name key)
    (early : Gap before) (blank : Gap gap) (reads : ReadsBack limit text value) :
    FieldReadsBack limit ('"' :: (name ++ (before ++ ':' :: (gap ++ text)))) (String.ofList key)
      value := by
  refine ⟨⟨_, rfl⟩, ?_⟩
  intro fuel rest enough ends
  simp only [List.length_append, List.length_cons] at enough
  obtain ⟨fuel, rfl⟩ : ∃ less, fuel = less + 1 := ⟨fuel - 1, by omega⟩
  simp only [List.append_assoc, List.cons_append]
  refine read_field (named.reads _) (skip_gap_append early _) ?_
  rw [read_value_gap blank]
  exact reads.reads (by omega) ends

theorem last_field_reads_back {sofar : List (String × Json)} (blank : Gap gap) :
    FieldsReadBack limit (gap ++ ['}']) sofar sofar := by
  constructor
  · intro rest
    rw [List.append_assoc]
    exact ends_number_behind blank (by simp)
  · intro fuel rest enough
    rw [List.length_append, List.length_singleton] at enough
    obtain ⟨fuel, rfl⟩ : ∃ less, fuel = less + 1 := ⟨fuel - 1, by omega⟩
    rw [List.append_assoc, read_fields_gap blank, List.singleton_append, read_fields_end]

theorem next_field_reads_back {key : String} {value : Json} {sofar all : List (String × Json)}
    (early : Gap before) (blank : Gap gap) (head : FieldReadsBack limit text key value)
    (tail : FieldsReadBack limit others (Table.set key value sofar) all) :
    FieldsReadBack limit (before ++ ',' :: (gap ++ (text ++ others))) sofar all := by
  constructor
  · intro rest
    rw [List.append_assoc]
    exact ends_number_behind early (by simp)
  · intro fuel rest enough
    simp only [List.length_append, List.length_cons] at enough
    obtain ⟨fuel, rfl⟩ : ∃ less, fuel = less + 1 := ⟨fuel - 1, by omega⟩
    simp only [List.append_assoc, List.cons_append]
    have headReads := head.reads (by omega : text.length ≤ fuel) (tail.ends rest)
    rw [read_fields_gap early, read_fields_more (by rw [read_field_gap blank, headReads])]
    exact tail.reads (by omega)

theorem spelled_reads_back {phrase : Phrase} (spells : Spells limit text phrase) :
    PhraseReadsBack limit text phrase := by
  induction spells with
  | null => exact .of_step rfl (by decide) fun _ _ => read_null
  | true => exact .of_step rfl (by decide) fun _ _ => read_true
  | false => exact .of_step rfl (by decide) fun _ _ => read_false
  | string spells =>
      refine .of_step rfl (by decide) fun _ _ => ?_
      rw [readValue, skip_solid rfl]
      simp only [spells.reads, Option.map_some]
  | number spells => exact number_reads_back spells
  | emptyArray blank => exact empty_array_reads_back blank
  | array blank _ _ head tail => exact array_reads_back blank head tail
  | lastItem blank => exact last_item_reads_back blank
  | nextItem early blank _ _ head tail => exact next_item_reads_back early blank head tail
  | emptyObject blank => exact empty_object_reads_back blank
  | object blank _ _ head tail => exact object_reads_back blank head tail
  | field named early blank _ reads => exact field_reads_back named early blank reads
  | lastField blank => exact last_field_reads_back blank
  | nextField early blank _ _ head tail => exact next_field_reads_back early blank head tail

end Phrases

/-- The texts that are read are those that spell a value, with gaps around it. -/
theorem parse_chars_iff {chars : List Char} {value : Json} :
    parseChars? chars = some value ↔ ∃ gap text last, Gap gap ∧ Gap last ∧
      chars = gap ++ (text ++ last) ∧ Spells depthLimit text (.value value) := by
  constructor
  · intro parses
    simp only [parseChars?, bind, Option.bind_eq_some_iff] at parses
    obtain ⟨⟨read, last⟩, reads, ends⟩ := parses
    split at ends
    · rename_i nothing
      cases ends
      obtain ⟨gap, text, blank, rfl, spells⟩ := (reads_spelled _).value reads
      obtain ⟨skipped, lastBlank, same⟩ := gap_skipped last
      rw [List.isEmpty_iff.mp nothing, List.append_nil] at same
      exact ⟨gap, text, last, blank, same ▸ lastBlank, rfl, spells⟩
    · cases ends
  · rintro ⟨gap, text, last, blank, lastBlank, rfl, spells⟩
    have ends : EndsNumber (last ++ []) :=
      ends_number_of_gap lastBlank (by rintro c ⟨⟩)
    rw [List.append_nil] at ends
    have nothing : skipGap last = [] := List.dropWhile_eq_nil_iff.mpr lastBlank
    have reads := (spelled_reads_back spells).reads
      (by simp only [List.length_append]; omega :
        text.length ≤ 2 * (gap ++ (text ++ last)).length + 2) ends
    rw [parseChars?, read_value_gap blank, reads]
    simp only [bind, Option.bind_some, nothing, List.isEmpty_nil, if_true]

end RpgSymbols.Json
