import RpgSymbols.Proofs.Artifact.ReadingBack
import RpgSymbols.Proofs.Source.Silence
import RpgSymbols.Proofs.Text.CaseCutting

/-!
The artifact read as source. Whatever texts its rows have, each of its lines is one row, which begins
with a brace, or the empty one behind the last row. No operation begins so, and an artifact that is
included declares nothing.
-/

namespace RpgSymbols

open Text Json

/-! Lines that begin with a brace. -/

theorem trim_right_head {c : Char} (clear : isBlank c = false) (chars : List Char) :
    ∃ rest, trimRightChars (c :: chars) = c :: rest := by
  rw [trimRightChars, List.reverse_cons, List.dropWhile_append]
  split
  · exact ⟨[], by simp [clear]⟩
  · exact ⟨_, by rw [List.reverse_append]; rfl⟩

theorem words_head {c : Char} (clear : isBlank c = false) (chars : List Char) :
    ∃ rest others, wordsChars (c :: chars) = (c :: rest) :: others := by
  obtain ⟨piece, more, found⟩ := List.exists_cons_of_ne_nil (pieces_ne_nil isBlank chars)
  have first : pieces isBlank (c :: chars) = (c :: piece) :: more := by
    simp [pieces, clear, found]
  exact ⟨piece, _, by rw [wordsChars, first]; rfl⟩

theorem no_operation_of_brace {word : String} {rest : List Char}
    (braced : word.toList = '\x7b' :: rest) : Operation.ofWord? word = none := by
  unfold Operation.ofWord?
  split
  all_goals first | rfl | cases braced

theorem inert_of_brace {raw : String} {chars : List Char} (braced : raw.toList = '\x7b' :: chars) :
    Inert raw := by
  have clear : isBlank '\x7b' = false := by decide
  obtain ⟨rest, trimmed⟩ := trim_right_head clear chars
  have line : (trim raw).toList = '\x7b' :: rest := by
    rw [trim, braced, String.toList_ofList, trimChars, trimLeftChars]
    exact trimmed
  obtain ⟨first, others, cutOut⟩ := words_head clear (rest.takeWhile (· != ';'))
  have worded : displayWords (trim raw) =
      String.ofList ('\x7b' :: first) :: others.map String.ofList := by
    rw [displayWords, words, before, line, String.toList_ofList,
      List.takeWhile_cons_of_pos (by decide), cutOut, List.map_cons]
  have letters : (upper (String.ofList ('\x7b' :: first))).toList =
      '\x7b' :: first.flatMap upperChar := by
    have stays : upperChar '\x7b' = ['\x7b'] := by decide +kernel
    rw [to_list_upper, String.toList_ofList, List.flatMap_cons, stays, List.singleton_append]
  simp only [Inert, instruction?, Statement.ofLine?, worded, Option.bind_some,
    Statement.operation?, no_operation_of_brace letters, Option.map_none]

/-! The text of an artifact. -/

theorem unify_without_returns {chars : List Char} (none : '\r' ∉ chars) :
    unifyNewlines chars = chars := by
  fun_induction unifyNewlines chars with
  | case1 => rfl
  | case2 rest => exact absurd List.mem_cons_self none
  | case3 rest => exact absurd List.mem_cons_self none
  | case4 c rest _ _ induction => rw [induction fun listed => none (List.mem_cons_of_mem _ listed)]

section Lines

variable {rows : List (List Char)} (printed : ∀ row ∈ rows, Printed row)
include printed

theorem no_return_in_rows : '\r' ∉ rows.flatMap (· ++ ['\n']) := by
  intro listed
  obtain ⟨row, held, member⟩ := List.mem_flatMap.mp listed
  rcases List.mem_append.mp member with inside | feed
  · exact absurd (printed row held _ inside) (by decide)
  · exact absurd (List.mem_singleton.mp feed) (by decide)

theorem pieces_of_rows :
    pieces (· == '\n') (rows.flatMap (· ++ ['\n'])) = rows ++ [[]] := by
  induction rows with
  | nil => rfl
  | cons row rest induction =>
      obtain ⟨first, later⟩ := List.forall_mem_cons.mp printed
      have uncut : ∀ c ∈ row, (c == '\n') = false := by
        intro c listed
        rw [beq_eq_false_iff_ne]
        rintro rfl
        exact absurd (first _ listed) (by decide)
      rw [List.flatMap_cons, List.append_assoc, List.singleton_append,
        pieces_behind_cut uncut (by decide), induction later, List.cons_append]

/-- Rows that each end with a line feed are the lines of their text, with an empty one behind. -/
theorem lines_of_rows :
    lines (String.ofList (rows.flatMap (· ++ ['\n']))) = rows.map String.ofList ++ [""] := by
  have whole : (rows.flatMap (· ++ ['\n'])).filter (· != '\r') = rows.flatMap (· ++ ['\n']) := by
    rw [List.filter_eq_self]
    rintro c listed
    rw [bne_iff_ne]
    rintro rfl
    exact no_return_in_rows printed listed
  rw [lines, String.toList_ofList, whole, pieces_of_rows printed, List.map_append]
  rfl

end Lines

namespace SymbolRecord

theorem to_json_printed (record : SymbolRecord) : Printed (compactChars record.toJson) := by
  have texts : ∀ texts : List String, Printed (compactChars (strings texts)) := by
    intro texts
    apply array_printed
    intro item listed
    obtain ⟨text, _, rfl⟩ := List.mem_map.mp listed
    exact string_printed text
  have parameters : Printed (compactChars (.arr (record.parameters.map parameterToJson))) := by
    apply array_printed
    intro item listed
    obtain ⟨parameter, _, rfl⟩ := List.mem_map.mp listed
    apply object_printed
    simp only [List.forall_mem_cons]
    exact ⟨string_printed _, texts _, string_printed _, List.forall_mem_nil _⟩
  have tags : Printed (compactChars
      (.obj ((sortedTags record.tags).map fun tag => (tag.1, strings tag.2)))) := by
    apply object_printed
    intro field listed
    obtain ⟨tag, _, rfl⟩ := List.mem_map.mp listed
    exact texts tag.2
  have title : Printed (compactChars (optional record.title)) := by
    cases record.title with
    | none => decide
    | some title => exact string_printed title
  apply object_printed
  simp only [List.forall_mem_cons]
  exact ⟨string_printed _, string_printed _, texts _, string_printed _, Number.int_digits_printed _,
    string_printed _, parameters, string_printed _, Number.int_digits_printed _, tags, title,
    List.forall_mem_nil _⟩

/-- No line of an artifact has an instruction. -/
theorem encoded_silent {records : List SymbolRecord} {text : String}
    (reads : readText? (encode records) = some text) : Silent (lines text) := by
  let rows := records.map fun record => compactChars record.toJson
  have printed : ∀ row ∈ rows, Printed row := by
    intro row listed
    obtain ⟨record, _, rfl⟩ := List.mem_map.mp listed
    exact record.to_json_printed
  have bytes : encode records = (rows.flatMap (· ++ ['\n'])).flatMap String.utf8EncodeChar := by
    simp only [rows, List.flatMap_assoc, List.flatMap_map, encode, encodeUtf8, Json.compact,
      String.toList_append, String.toList_ofList]
    rfl
  have same : text = String.ofList (rows.flatMap (· ++ ['\n'])) := by
    rw [readText?, bytes, decode_encoded, Option.map_some,
      unify_without_returns (no_return_in_rows printed)] at reads
    exact (Option.some.inj reads).symm
  rw [same, lines_of_rows printed]
  intro line listed
  rcases List.mem_append.mp listed with row | last
  · obtain ⟨letters, held, rfl⟩ := List.mem_map.mp row
    obtain ⟨record, _, rfl⟩ := List.mem_map.mp held
    exact inert_of_brace String.toList_ofList
  · rw [List.mem_singleton.mp last]
    decide

end SymbolRecord

end RpgSymbols
