import Mathlib.Data.List.TakeWhile
import RpgSymbols.Proofs.Json.Tokens

/-!
What each reader does with each beginning. A gap before a token is passed over. A value is read back
from a text if it is read there whatever follows that cannot be a part of a number.
-/

namespace RpgSymbols.Json

open Text Number

def Gap (chars : List Char) : Prop := ∀ c ∈ chars, isGap c = true

theorem Gap.append {one other : List Char} (first : Gap one) (second : Gap other) :
    Gap (one ++ other) := List.forall_mem_append.mpr ⟨first, second⟩

theorem gap_nil : Gap [] := List.forall_mem_nil _

theorem gap_skipped (chars : List Char) : ∃ gap, Gap gap ∧ chars = gap ++ skipGap chars :=
  ⟨chars.takeWhile isGap, fun _ => List.mem_takeWhile_imp,
    (List.takeWhile_append_dropWhile (p := isGap)).symm⟩

section Gaps

variable {gap : List Char} {fuel limit : Nat}

theorem gap_cases {c : Char} (blank : isGap c = true) :
    c = ' ' ∨ c = '\t' ∨ c = '\n' ∨ c = '\r' := by
  simpa [isGap, or_assoc] using blank

theorem skip_gap_append (blank : Gap gap) (chars : List Char) :
    skipGap (gap ++ chars) = skipGap chars := List.dropWhile_append_of_pos blank

theorem skip_solid {c : Char} (solid : isGap c = false) (chars : List Char) :
    skipGap (c :: chars) = c :: chars := by
  rw [skipGap, List.dropWhile_cons, solid]
  rfl

theorem read_value_gap (blank : Gap gap) (chars : List Char) :
    readValue fuel limit (gap ++ chars) = readValue fuel limit chars := by
  cases fuel with
  | zero => rw [readValue, readValue]
  | succ fuel => rw [readValue, readValue, skip_gap_append blank]

theorem read_array_gap (blank : Gap gap) (chars : List Char) :
    readValue fuel limit ('[' :: (gap ++ chars)) = readValue fuel limit ('[' :: chars) := by
  cases fuel with
  | zero => rw [readValue, readValue]
  | succ fuel => simp only [readValue, skip_solid (c := '[') rfl, skip_gap_append blank]

theorem read_object_gap (blank : Gap gap) (chars : List Char) :
    readValue fuel limit ('{' :: (gap ++ chars)) = readValue fuel limit ('{' :: chars) := by
  cases fuel with
  | zero => rw [readValue, readValue]
  | succ fuel => simp only [readValue, skip_solid (c := '{') rfl, skip_gap_append blank]

theorem read_items_gap (blank : Gap gap) (chars : List Char) :
    readItems fuel limit (gap ++ chars) = readItems fuel limit chars := by
  cases fuel with
  | zero => rw [readItems, readItems]
  | succ fuel => rw [readItems, readItems, skip_gap_append blank]

theorem read_field_gap (blank : Gap gap) (chars : List Char) :
    readField fuel limit (gap ++ chars) = readField fuel limit chars := by
  cases fuel with
  | zero => rw [readField, readField]
  | succ fuel => rw [readField, readField, skip_gap_append blank]

theorem read_fields_gap (blank : Gap gap) (sofar : List (String × Json))
    (chars : List Char) :
    readFields fuel limit sofar (gap ++ chars) = readFields fuel limit sofar chars := by
  cases fuel with
  | zero => rw [readFields, readFields]
  | succ fuel => rw [readFields, readFields, skip_gap_append blank]

theorem ends_number_of_gap {gap rest : List Char} (blank : Gap gap)
    (ends : EndsNumber rest) : EndsNumber (gap ++ rest) := by
  cases gap with
  | nil => exact ends
  | cons first others =>
      rintro c ⟨rfl⟩
      rcases gap_cases (blank first List.mem_cons_self) with rfl | rfl | rfl | rfl <;>
        exact ⟨rfl, by decide, by decide, by decide⟩

theorem ends_number_token {c : Char} {rest : List Char} (token : c = ',' ∨ c = ']' ∨ c = '}') :
    EndsNumber (c :: rest) := by
  rintro c ⟨rfl⟩
  rcases token with rfl | rfl | rfl <;> exact ⟨rfl, by decide, by decide, by decide⟩

theorem ends_number_behind {gap chars : List Char} {c : Char} (blank : Gap gap)
    (token : c = ',' ∨ c = ']' ∨ c = '}') : EndsNumber (gap ++ c :: chars) :=
  ends_number_of_gap blank (ends_number_token token)

end Gaps

section Steps

variable {fuel limit : Nat} {rest : List Char}

theorem read_null : readValue (fuel + 1) limit (['n', 'u', 'l', 'l'] ++ rest) = some (.null, rest) := by
  simp [readValue, skipGap, isGap]

theorem read_true :
    readValue (fuel + 1) limit (['t', 'r', 'u', 'e'] ++ rest) = some (.bool true, rest) := by
  simp [readValue, skipGap, isGap]

theorem read_false :
    readValue (fuel + 1) limit (['f', 'a', 'l', 's', 'e'] ++ rest) = some (.bool false, rest) := by
  simp [readValue, skipGap, isGap]

theorem numeric_solid {c : Char} (numeric : c = '-' ∨ isDigit c = true) : isGap c = false := by
  rw [Bool.eq_false_iff]
  intro gap
  rcases gap_cases gap with rfl | rfl | rfl | rfl <;> simp [isDigit] at numeric

theorem read_numeric {c : Char} (numeric : c = '-' ∨ isDigit c = true) :
    readValue (fuel + 1) limit (c :: rest) = readNumber (c :: rest) := by
  rw [readValue, skip_solid (numeric_solid numeric)]
  -- no other value begins with a digit or a minus
  split
  case h_7 => rfl
  all_goals
    rename_i same
    cases same
    simp [isDigit] at numeric

theorem read_array_empty :
    readValue (fuel + 1) (limit + 1) ('[' :: ([']'] ++ rest)) = some (.arr [], rest) := by
  simp [readValue, skipGap, isGap]

theorem read_array {gap chars middle : List Char} {first : Char} {item : Json} {items : List Json}
    (blank : Gap gap) (solid : isGap first = false) (opens : first ≠ ']')
    (head : readValue fuel limit (first :: chars) = some (item, middle))
    (tail : readItems fuel limit middle = some (items, rest)) :
    readValue (fuel + 1) (limit + 1) ('[' :: (gap ++ first :: chars)) =
      some (.arr (item :: items), rest) := by
  rw [read_array_gap blank, readValue, skip_solid rfl]
  simp [skip_solid solid, opens, head, tail]

theorem read_items_end : readItems (fuel + 1) limit (']' :: rest) = some ([], rest) := by
  simp [readItems, skipGap, isGap]

theorem read_items_more {chars middle : List Char} {item : Json} {items : List Json}
    (head : readValue fuel limit chars = some (item, middle))
    (tail : readItems fuel limit middle = some (items, rest)) :
    readItems (fuel + 1) limit (',' :: chars) = some (item :: items, rest) := by
  simp [readItems, skipGap, isGap, head, tail]

theorem read_field {chars behind later name : List Char} {value : Json}
    (named : readString chars = some (name, behind)) (colon : skipGap behind = ':' :: later)
    (reads : readValue fuel limit later = some (value, rest)) :
    readField (fuel + 1) limit ('"' :: chars) = some (String.ofList name, value, rest) := by
  rw [readField, skip_solid rfl]
  simp [named, colon, reads]

theorem read_object_empty :
    readValue (fuel + 1) (limit + 1) ('{' :: (['}'] ++ rest)) = some (.obj [], rest) := by
  simp [readValue, skipGap, isGap]

theorem read_object {gap chars middle : List Char} {key : String} {value : Json}
    {fields : List (String × Json)} (blank : Gap gap)
    (head : readField fuel limit ('"' :: chars) = some (key, value, middle))
    (tail : readFields fuel limit [(key, value)] middle = some (fields, rest)) :
    readValue (fuel + 1) (limit + 1) ('{' :: (gap ++ '"' :: chars)) = some (.obj fields, rest) := by
  rw [read_object_gap blank, readValue, skip_solid rfl]
  simp [skip_solid (c := '"') rfl, head, tail]

theorem read_fields_end {sofar : List (String × Json)} :
    readFields (fuel + 1) limit sofar ('}' :: rest) = some (sofar, rest) := by
  simp [readFields, skipGap, isGap]

theorem read_fields_more {sofar : List (String × Json)} {chars middle : List Char} {key : String}
    {value : Json} (head : readField fuel limit chars = some (key, value, middle)) :
    readFields (fuel + 1) limit sofar (',' :: chars) =
      readFields fuel limit (Table.set key value sofar) middle := by
  simp [readFields, skipGap, isGap, head]

end Steps

/-- A text is read as a value, whatever follows that cannot belong to a number. -/
structure ReadsBack (limit : Nat) (text : List Char) (value : Json) : Prop where
  opens : ∃ first others, text = first :: others ∧ isGap first = false ∧ first ≠ ']'
  reads : ∀ {fuel : Nat} {rest : List Char}, text.length ≤ fuel → EndsNumber rest →
    readValue fuel limit (text ++ rest) = some (value, rest)

/-- A text has a first character, so there is fuel for a first call. -/
theorem ReadsBack.of_step {limit : Nat} {first : Char} {others : List Char} {value : Json}
    (solid : isGap first = false) (opens : first ≠ ']')
    (step : ∀ {fuel : Nat} {rest : List Char}, others.length ≤ fuel → EndsNumber rest →
      readValue (fuel + 1) limit (first :: (others ++ rest)) = some (value, rest)) :
    ReadsBack limit (first :: others) value := by
  refine ⟨⟨first, others, rfl, solid, opens⟩, ?_⟩
  intro fuel rest enough ends
  rw [List.length_cons] at enough
  obtain ⟨less, rfl⟩ : ∃ less, fuel = less + 1 := ⟨fuel - 1, by omega⟩
  exact step (by omega) ends

end RpgSymbols.Json
