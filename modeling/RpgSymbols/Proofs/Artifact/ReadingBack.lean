import RpgSymbols.Artifact.Record
import RpgSymbols.Proofs.Json.ReadingBack
import RpgSymbols.Proofs.Text.Encoding

/-!
Artifacts are read back row by row. The compact form of a row has no control character, so none of
its bytes ends a line, and the line feed after it ends exactly its line; each line is then the row's
own JSON text.
-/

namespace RpgSymbols

open Text Json Number

section Printed

theorem items_printed {others : List Json} (each : ∀ item ∈ others, Printed (compactChars item)) :
    Printed (compactItems others) := by
  induction others with
  | nil => decide
  | cons item others induction =>
      obtain ⟨first, later⟩ := List.forall_mem_cons.mp each
      exact .cons (by decide) (first.append (induction later))

theorem fields_printed {others : List (String × Json)}
    (each : ∀ field ∈ others, Printed (compactChars field.2)) : Printed (compactFields others) := by
  induction others with
  | nil => decide
  | cons field others induction =>
      obtain ⟨first, later⟩ := List.forall_mem_cons.mp each
      exact .cons (by decide) ((string_printed field.1).append
        (.cons (by decide) (first.append (induction later))))

theorem array_printed {items : List Json} (each : ∀ item ∈ items, Printed (compactChars item)) :
    Printed (compactChars (.arr items)) := by
  cases items with
  | nil => decide
  | cons item others =>
      obtain ⟨first, later⟩ := List.forall_mem_cons.mp each
      exact .cons (by decide) (first.append (items_printed later))

theorem object_printed {fields : List (String × Json)}
    (each : ∀ field ∈ fields, Printed (compactChars field.2)) :
    Printed (compactChars (.obj fields)) := by
  cases fields with
  | nil => decide
  | cons field others =>
      obtain ⟨first, later⟩ := List.forall_mem_cons.mp each
      exact .cons (by decide) ((string_printed field.1).append
        (.cons (by decide) (first.append (fields_printed later))))

/-- The compact form of a value has no control character. -/
theorem compact_printed {limit : Nat} {value : Json} (readable : Readable limit value) :
    Printed (compactChars value) := by
  induction readable with
  | null => decide
  | bool value => cases value <;> decide
  | int fits => exact int_digits_printed _
  | str value => exact string_printed value
  | arr each induction => exact array_printed induction
  | obj distinct each induction => exact object_printed induction

end Printed

theorem byte_lines_line {line : List UInt8} (whole : ∀ byte ∈ line, 0x20 ≤ byte.toNat)
    (rest : List UInt8) : byteLines (line ++ 10 :: rest) = line :: byteLines rest := by
  induction line with
  | nil => rfl
  | cons byte line induction =>
      obtain ⟨printed, later⟩ := List.forall_mem_cons.mp whole
      have inside : ¬ (byte = 10 || byte = 13) = true := by
        simp only [Bool.or_eq_true, decide_eq_true_eq]
        rintro (rfl | rfl) <;> contradiction
      rw [List.cons_append, byteLines, if_neg inside, induction later]

section Rows

def jsonLine (value : Json) : List UInt8 := encodeUtf8 value.compact

variable {value : Json}

theorem json_line_bytes (readable : Readable depthLimit value) :
    ∀ byte ∈ jsonLine value, 0x20 ≤ byte.toNat := by
  intro byte listed
  rw [jsonLine, encodeUtf8, Json.compact, String.toList_ofList] at listed
  obtain ⟨c, written, encoded⟩ := List.mem_flatMap.mp listed
  exact encoded_above_controls (compact_printed readable c written) byte encoded

theorem parse_json_line (readable : Readable depthLimit value) :
    parseBytes? (jsonLine value) = some value := by
  rw [parseBytes?, jsonLine, encodeUtf8, Json.compact, String.toList_ofList, decode_encoded]
  exact parse_compact readable

theorem parse_nothing : parseBytes? [] = none := by
  simp [parseBytes?, decodeStrict?, Decoding.ofBytes, Decoding.finish, parseChars?, readValue, skipGap,
    readNumber, readUnsigned, readWholePart, readDigits]

theorem json_line_not_empty (readable : Readable depthLimit value) : jsonLine value ≠ [] := by
  intro empty
  have parsed := parse_json_line readable
  rw [empty, parse_nothing] at parsed
  cases parsed

theorem encode_with_feed (text : String) : encodeUtf8 (text ++ "\n") = encodeUtf8 text ++ [10] := by
  rw [encodeUtf8, String.toList_append, List.flatMap_append]
  rfl

theorem parse_json_lines {records : List SymbolRecord}
    (readable : ∀ record ∈ records, Readable depthLimit record.toJson) :
    (records.map fun record => jsonLine record.toJson).mapM parseBytes? =
      some (records.map SymbolRecord.toJson) := by
  induction records with
  | nil => rfl
  | cons record records induction =>
      obtain ⟨first, later⟩ := List.forall_mem_cons.mp readable
      rw [List.map_cons, List.mapM_cons, parse_json_line first, induction later]
      rfl

/-- The lines of an artifact are the lines of its rows. -/
theorem byte_lines_encoded {records : List SymbolRecord}
    (readable : ∀ record ∈ records, Readable depthLimit record.toJson) :
    byteLines (SymbolRecord.encode records) = records.map fun record => jsonLine record.toJson := by
  induction records with
  | nil => rfl
  | cons record records induction =>
      obtain ⟨first, later⟩ := List.forall_mem_cons.mp readable
      rw [SymbolRecord.encode, List.flatMap_cons, encode_with_feed, List.append_assoc,
        List.singleton_append, ← jsonLine, byte_lines_line (json_line_bytes first), List.map_cons,
        ← induction later, SymbolRecord.encode]

end Rows

namespace SymbolRecord

theorem parameter_readable {limit : Nat} (parameter : ParameterRecord) :
    Readable (limit + 2) (parameterToJson parameter) := by
  apply Readable.obj (by simp [Table.keys])
  simp only [List.forall_mem_cons]
  exact ⟨.str _, strings_readable _, .str _, List.forall_mem_nil _⟩

theorem tags_readable {limit : Nat} {tags : Table (List String)} (distinct : (Table.keys tags).Nodup) :
    Readable (limit + 2)
      (.obj ((sortedTags tags).map fun (name, contents) => (name, strings contents))) := by
  have sorted : (Table.keys (sortedTags tags)).Perm (Table.keys tags) :=
    (List.mergeSort_perm tags _).map Prod.fst
  apply Readable.obj
  · simpa [Table.keys, Function.comp_def] using sorted.nodup_iff.mpr distinct
  · intro field listed
    obtain ⟨tag, -, rfl⟩ := List.mem_map.mp listed
    exact strings_readable tag.2

theorem fits_iff {record : SymbolRecord} : record.fits = true ↔
    fitsWord record.line = true ∧ fitsWord record.schemaVersion = true := by
  rw [fits, Bool.and_eq_true]

theorem to_json_readable {record : SymbolRecord} (fits : record.fits = true)
    (distinct : (Table.keys record.tags).Nodup) : Readable depthLimit record.toJson := by
  have parameters : Readable (1020 + 3) (.arr (record.parameters.map parameterToJson)) := by
    apply Readable.arr
    intro item listed
    obtain ⟨parameter, -, rfl⟩ := List.mem_map.mp listed
    exact parameter_readable parameter
  obtain ⟨line, version⟩ := fits_iff.mp fits
  apply Readable.obj (by simp [Table.keys])
  simp only [List.forall_mem_cons]
  exact ⟨.str _, .str _, strings_readable _, .str _, .int line, .str _, parameters, .str _,
    .int version, tags_readable distinct, optional_readable _, List.forall_mem_nil _⟩

theorem read_back {records : List SymbolRecord} (fits : ∀ record ∈ records, record.fits = true)
    (distinct : ∀ record ∈ records, (Table.keys record.tags).Nodup) :
    decodeRows? (encode records) = some (records.map toJson) := by
  have readable : ∀ record ∈ records, Readable depthLimit record.toJson :=
    fun record listed => to_json_readable (fits record listed) (distinct record listed)
  have lines : (byteLines (encode records)).filter (fun line => !line.isEmpty) =
      records.map fun record => jsonLine record.toJson := by
    rw [byte_lines_encoded readable, List.filter_eq_self]
    intro line listed
    obtain ⟨record, held, rfl⟩ := List.mem_map.mp listed
    simpa using json_line_not_empty (readable record held)
  rw [decodeRows?, lines, parse_json_lines readable, Option.map_some, List.filter_eq_self.mpr]
  intro value listed
  obtain ⟨record, -, rfl⟩ := List.mem_map.mp listed
  rfl

/-- What is written is read back: one object for each row, in order. -/
theorem rows_read_back {records : List SymbolRecord}
    (fits : ∀ record ∈ records, fitsWord record.line = true)
    (versions : ∀ record ∈ records, fitsWord record.schemaVersion = true)
    (distinct : ∀ record ∈ records, (Table.keys record.tags).Nodup) :
    ∃ bytes, encode? records = some bytes ∧ decodeRows? bytes = some (records.map toJson) := by
  have both : ∀ record ∈ records, record.fits = true :=
    fun record listed => fits_iff.mpr ⟨fits record listed, versions record listed⟩
  exact ⟨encode records, if_pos (List.all_eq_true.mpr both), read_back both distinct⟩

/-- A row with characters that end lines, close strings or take several bytes, and with the largest
line number and the smallest version. -/
def awkwardRow : SymbolRecord where
  schemaVersion := -9223372036854775808
  document := "/a\nb\r.rpgle"
  path := "/\"quoted\"\\\u2028"
  line := 18446744073709551615
  kind := .procedure
  name := "\u0001\x1f\x7f"
  keywords := ["é", "😀", ""]
  title := some "\t"
  description := "\x7b\"line\":1\x7d\r\n"
  tags := [("param", ["one", "two\n"]), ("", [])]
  parameters := [⟨"\u2029", ["\x08\x0c"], "\x00"⟩]

theorem awkward_rows_read_back :
    (∀ record ∈ [awkwardRow, awkwardRow], fitsWord record.line = true) ∧
      (∀ record ∈ [awkwardRow, awkwardRow], fitsWord record.schemaVersion = true) ∧
      (∀ record ∈ [awkwardRow, awkwardRow], (Table.keys record.tags).Nodup) ∧
      ∃ bytes, encode? [awkwardRow, awkwardRow] = some bytes ∧
        decodeRows? bytes = some [awkwardRow.toJson, awkwardRow.toJson] := by
  have fits : ∀ record ∈ [awkwardRow, awkwardRow], fitsWord record.line = true := by decide
  have versions : ∀ record ∈ [awkwardRow, awkwardRow], fitsWord record.schemaVersion = true := by
    decide
  have distinct : ∀ record ∈ [awkwardRow, awkwardRow], (Table.keys record.tags).Nodup := by decide
  exact ⟨fits, versions, distinct, rows_read_back fits versions distinct⟩

end SymbolRecord

end RpgSymbols
