import RpgSymbols.Proofs.Json.Grammar
import RpgSymbols.Proofs.Text.Trimming

/-!
Texts whose line breaks are taken out. A token has no break in it and a gap stays one without its
breaks, so a JSON text spells the same value when its lines are put together with nothing between
them. The text of an object begins and ends with a brace, so trimming it takes away gaps only.
-/

namespace RpgSymbols

namespace Text

def withoutBreaks (chars : List Char) : List Char := chars.filter fun c => c != '\n' && c != '\r'

@[simp] theorem without_breaks_append (one other : List Char) :
    withoutBreaks (one ++ other) = withoutBreaks one ++ withoutBreaks other := List.filter_append ..

theorem without_breaks_cons {c : Char} (feed : c ≠ '\n') (carriage : c ≠ '\r') (chars : List Char) :
    withoutBreaks (c :: chars) = c :: withoutBreaks chars := by
  simp [withoutBreaks, feed, carriage]

theorem pieces_flatten (cut : Char → Bool) (chars : List Char) :
    (pieces cut chars).flatten = chars.filter fun c => !cut c := by
  induction chars with
  | nil => rfl
  | cons c rest induction =>
      rw [pieces]
      split
      case isTrue cuts => simpa [cuts] using induction
      case isFalse whole =>
        rw [List.filter_cons_of_pos (by simpa using whole), ← induction]
        split
        case h_1 none => rw [none]; rfl
        case h_2 piece more some => rw [some]; rfl

theorem join_with_nothing (parts : List String) :
    (join "" parts).toList = (parts.map String.toList).flatten := by
  induction parts with
  | nil => rfl
  | cons part rest induction =>
      cases rest with
      | nil => simp [join]
      | cons next rest =>
          have joined : join "" (part :: next :: rest) = part ++ "" ++ join "" (next :: rest) := rfl
          rw [joined, String.append_empty, String.toList_append, induction]
          rfl

theorem join_lines (text : String) : (join "" (lines text)).toList = withoutBreaks text.toList := by
  have letters : String.toList ∘ String.ofList = id := funext fun _ => String.toList_ofList
  rw [join_with_nothing, lines, List.map_map, letters, List.map_id, pieces_flatten,
    List.filter_filter]
  rfl

end Text

open Text

theorem Printed.without_breaks {chars : List Char} (printed : Printed chars) :
    withoutBreaks chars = chars := by
  apply List.filter_eq_self.mpr
  intro c listed
  have control := printed c listed
  simp only [Bool.and_eq_true, bne_iff_ne]
  constructor <;> rintro rfl <;> contradiction

namespace Json

theorem Gap.without_breaks {gap : List Char} (blank : Gap gap) : Gap (withoutBreaks gap) :=
  fun c listed => blank c (List.mem_of_mem_filter listed)

theorem Spells.without_breaks {limit : Nat} {text : List Char} {phrase : Phrase}
    (spells : Spells limit text phrase) : Spells limit (withoutBreaks text) phrase := by
  have token {c : Char} (plain : c ≠ '\n' ∧ c ≠ '\r') (chars : List Char) :
      withoutBreaks (c :: chars) = c :: withoutBreaks chars :=
    without_breaks_cons plain.1 plain.2 chars
  induction spells with
  | null => exact .null
  | true => exact .true
  | false => exact .false
  | string spells =>
      rw [token (by decide), spells.printed.without_breaks]
      exact .string spells
  | number spells =>
      rw [spells.printed.without_breaks]
      exact .number spells
  | emptyArray blank =>
      rw [token (by decide), without_breaks_append]
      exact .emptyArray blank.without_breaks
  | array blank _ _ head tail =>
      rw [token (by decide), without_breaks_append, without_breaks_append]
      exact .array blank.without_breaks head tail
  | lastItem blank =>
      rw [without_breaks_append]
      exact .lastItem blank.without_breaks
  | nextItem early blank _ _ head tail =>
      rw [without_breaks_append, token (by decide), without_breaks_append, without_breaks_append]
      exact .nextItem early.without_breaks blank.without_breaks head tail
  | emptyObject blank =>
      rw [token (by decide), without_breaks_append]
      exact .emptyObject blank.without_breaks
  | object blank _ _ head tail =>
      rw [token (by decide), without_breaks_append, without_breaks_append]
      exact .object blank.without_breaks head tail
  | field named early blank _ spells =>
      rw [token (by decide), without_breaks_append, without_breaks_append, token (by decide),
        without_breaks_append, named.printed.without_breaks]
      exact .field named early.without_breaks blank.without_breaks spells
  | lastField blank =>
      rw [without_breaks_append]
      exact .lastField blank.without_breaks
  | nextField early blank _ _ head tail =>
      rw [without_breaks_append, token (by decide), without_breaks_append, without_breaks_append]
      exact .nextField early.without_breaks blank.without_breaks head tail

theorem parse_without_breaks {chars : List Char} {value : Json}
    (parses : parseChars? chars = some value) : parseChars? (withoutBreaks chars) = some value := by
  obtain ⟨gap, text, last, blank, lastBlank, rfl, spells⟩ := parse_chars_iff.mp parses
  rw [without_breaks_append, without_breaks_append]
  exact parse_chars_iff.mpr
    ⟨_, _, _, blank.without_breaks, lastBlank.without_breaks, rfl, spells.without_breaks⟩

/-! Trimmed objects. -/

theorem gap_blank {c : Char} (gap : isGap c = true) : isBlank c = true := by
  rcases gap_cases gap with rfl | rfl | rfl | rfl <;> rfl

theorem number_value_flat {negative : Bool} {whole tail : List Char} {fields : List (String × Json)} :
    numberValue negative whole tail ≠ some (.obj fields) := by
  simp only [numberValue]
  split
  · split_ifs <;> simp
  · split_ifs <;> simp

theorem read_unsigned_flat {negative : Bool} {chars rest : List Char}
    {fields : List (String × Json)} : readUnsigned negative chars ≠ some (.obj fields, rest) := by
  intro reads
  simp only [readUnsigned, bind, Option.bind_eq_some_iff] at reads
  obtain ⟨_, _, _, _, _, _, value, means, same⟩ := reads
  cases same
  exact number_value_flat means

/-- A number is no object. -/
theorem SpellsNumber.flat {text : List Char} {fields : List (String × Json)} :
    ¬ SpellsNumber text (.obj fields) := by
  intro spells
  have reads := spells.reads [] (by rintro c ⟨⟩)
  unfold readNumber at reads
  split at reads
  · exact read_unsigned_flat reads
  · exact read_unsigned_flat reads

theorem fields_close {limit : Nat} {text : List Char} {phrase : Phrase}
    (spells : Spells limit text phrase) :
    ∀ sofar all, phrase = .fields sofar all → ∃ front, text = front ++ ['}'] := by
  induction spells with
  | lastField blank => exact fun _ _ _ => ⟨_, rfl⟩
  | @nextField limit before gap text rest key value sofar all early blank head tail _ closes =>
      rintro _ _ -
      obtain ⟨front, rfl⟩ := closes _ _ rfl
      exact ⟨before ++ ',' :: (gap ++ (text ++ front)), by simp⟩
  | _ => rintro _ _ ⟨⟩

theorem object_braced {limit : Nat} {text : List Char} {fields : List (String × Json)}
    (spells : Spells limit text (.value (.obj fields))) :
    ∃ inside, text = '{' :: (inside ++ ['}']) := by
  cases spells with
  | number spells => exact absurd spells SpellsNumber.flat
  | emptyObject blank => exact ⟨_, rfl⟩
  | @object limit gap text rest key value fields blank head tail =>
      obtain ⟨front, rfl⟩ := fields_close tail _ _ rfl
      exact ⟨gap ++ (text ++ front), by simp⟩

theorem parse_trimmed {chars : List Char} {fields : List (String × Json)}
    (parses : parseChars? chars = some (.obj fields)) :
    parseChars? (trimChars chars) = some (.obj fields) := by
  obtain ⟨gap, text, last, blank, lastBlank, rfl, spells⟩ := parse_chars_iff.mp parses
  obtain ⟨inside, rfl⟩ := object_braced spells
  rw [trim_chars_around (fun c listed => gap_blank (blank c listed))
    (fun c listed => gap_blank (lastBlank c listed)) (List.cons_ne_nil _ _)]
  · exact parse_chars_iff.mpr ⟨[], _, [], gap_nil, gap_nil, (List.append_nil _).symm, spells⟩
  · rintro c ⟨⟩
    rfl
  · rw [← List.cons_append, List.getLast?_concat]
    rintro c ⟨⟩
    rfl

end Json

end RpgSymbols
