import RpgSymbols.Text.Utf8

/-!
Encoded texts are read back. The bytes of one character lead the decoder from between two characters
to between two characters again, with that character read; so the bytes of a text are read as its
characters. No byte of a character is a control byte, unless the character itself is a control
character.
-/

namespace RpgSymbols.Text

namespace LeadByte

variable {code : Nat}

theorem of_one (bound : code < 0x80) : of code = .complete (Char.ofNat code) := by
  rw [of, if_pos bound]

theorem of_two (least : 0x80 ≤ code) (bound : code < 0x800) :
    of (code / 64 + 0xC0) = .opening ⟨code / 64, 1, 0x80, 0xBF⟩ := by
  rw [of, if_neg (by omega), if_neg (by omega), if_pos (by omega), Nat.add_sub_cancel]

/-- The second byte is in the range that the first one leaves, for the range excludes only overlong
forms and surrogates. -/
theorem of_three (least : 0x800 ≤ code) (bound : code < 0x10000)
    (whole : code < 0xD800 ∨ 0xDFFF < code) :
    ∃ low high, of (code / 4096 + 0xE0) = .opening ⟨code / 4096, 2, low, high⟩ ∧
      low ≤ code / 64 % 64 + 0x80 ∧ code / 64 % 64 + 0x80 ≤ high := by
  rw [of, if_neg (by omega), if_neg (by omega), if_neg (by omega)]
  by_cases lowest : code / 4096 = 0
  · refine ⟨0xA0, 0xBF, ?_, by omega, by omega⟩
    rw [lowest]
    rfl
  · rw [if_neg (by simp only [beq_iff_eq]; omega)]
    by_cases middle : code / 4096 = 0xD
    · refine ⟨0x80, 0x9F, ?_, by omega, by omega⟩
      rw [middle]
      rfl
    · rw [if_neg (by simp only [beq_iff_eq]; omega), if_pos (by omega), Nat.add_sub_cancel]
      exact ⟨0x80, 0xBF, rfl, by omega, by omega⟩

/-- The range of the second byte excludes only overlong forms and codes beyond the last one. -/
theorem of_four (least : 0x10000 ≤ code) (bound : code < 0x110000) :
    ∃ low high, of (code / 262144 + 0xF0) = .opening ⟨code / 262144, 3, low, high⟩ ∧
      low ≤ code / 4096 % 64 + 0x80 ∧ code / 4096 % 64 + 0x80 ≤ high := by
  rw [of, if_neg (by omega), if_neg (by omega), if_neg (by omega),
    if_neg (by simp only [beq_iff_eq]; omega), if_neg (by simp only [beq_iff_eq]; omega),
    if_neg (by omega)]
  by_cases lowest : code / 262144 = 0
  · refine ⟨0x90, 0xBF, ?_, by omega, by omega⟩
    rw [lowest]
    rfl
  · rw [if_neg (by simp only [beq_iff_eq]; omega)]
    by_cases middle : code / 262144 < 4
    · rw [if_pos (by omega), Nat.add_sub_cancel]
      exact ⟨0x80, 0xBF, rfl, by omega, by omega⟩
    · have highest : code / 262144 = 4 := by omega
      refine ⟨0x80, 0x8F, ?_, by omega, by omega⟩
      rw [highest]
      rfl

end LeadByte

namespace Decoding

variable {read : List (Option Char)} {bits low high value : Nat}

theorem feed_first (bound : value < 256) : feed ⟨read, none⟩ (UInt8.ofNat value) = start read value := by
  rw [feed, UInt8.toNat_ofNat', Nat.mod_eq_of_lt bound]

theorem feed_next (missing : Nat) (least : low ≤ value) (most : value ≤ high) (bound : value < 256) :
    feed ⟨read, some ⟨bits, missing + 2, low, high⟩⟩ (UInt8.ofNat value) =
      ⟨read, some ⟨bits * 64 + (value - 0x80), missing + 1, 0x80, 0xBF⟩⟩ := by
  simp [feed, Nat.mod_eq_of_lt bound, least, most]

theorem feed_last (least : low ≤ value) (most : value ≤ high) (bound : value < 256) :
    feed ⟨read, some ⟨bits, 1, low, high⟩⟩ (UInt8.ofNat value) =
      ⟨some (Char.ofNat (bits * 64 + (value - 0x80))) :: read, none⟩ := by
  simp [feed, Nat.mod_eq_of_lt bound, least, most]

theorem start_opening {rest : PartialChar} (opens : LeadByte.of value = .opening rest) :
    start read value = ⟨read, some rest⟩ := by
  rw [start, opens]

end Decoding

theorem char_code_cases (c : Char) :
    c.toNat < 0xD800 ∨ 0xDFFF < c.toNat ∧ c.toNat < 0x110000 := c.valid

open Decoding in
/-- The bytes of one character are read as that character. -/
theorem feed_char (read : List (Option Char)) (c : Char) :
    (String.utf8EncodeChar c).foldl feed ⟨read, none⟩ = ⟨some c :: read, none⟩ := by
  have whole := char_code_cases c
  have itself : Char.ofNat c.toNat = c := Char.ofNat_toNat c
  have code : c.val.toNat = c.toNat := rfl
  simp only [String.utf8EncodeChar, code]
  generalize c.toNat = value at whole itself
  subst itself
  by_cases one : value ≤ 0x7F
  · rw [if_pos one, List.foldl_cons, feed_first (by omega), start, LeadByte.of_one (by omega)]
    rfl
  rw [if_neg one]
  by_cases two : value ≤ 0x7FF
  · have lead : LeadByte.of (value / 64 + 0xC0) = _ := LeadByte.of_two (by omega) (by omega)
    have total : value / 64 * 64 + (value % 64 + 0x80 - 0x80) = value := by omega
    have top : value / 64 % 32 = value / 64 := by omega
    rw [if_pos two, List.foldl_cons, List.foldl_cons, List.foldl_nil, top, feed_first (by omega),
      start_opening lead, feed_last (by omega) (by omega) (by omega), total]
  rw [if_neg two]
  by_cases three : value ≤ 0xFFFF
  · obtain ⟨low, high, lead, least, most⟩ : ∃ low high, LeadByte.of (value / 4096 + 0xE0) = _ ∧ _ :=
      LeadByte.of_three (by omega) (by omega) (by omega)
    have total : (value / 4096 * 64 + (value / 64 % 64 + 0x80 - 0x80)) * 64 +
        (value % 64 + 0x80 - 0x80) = value := by omega
    have top : value / 4096 % 16 = value / 4096 := by omega
    rw [if_pos three, List.foldl_cons, List.foldl_cons, List.foldl_cons, List.foldl_nil, top,
      feed_first (by omega), start_opening lead, feed_next 0 least most (by omega),
      feed_last (by omega) (by omega) (by omega), total]
  · obtain ⟨low, high, lead, least, most⟩ : ∃ low high, LeadByte.of (value / 262144 + 0xF0) = _ ∧ _ :=
      LeadByte.of_four (by omega) (by omega)
    have total : ((value / 262144 * 64 + (value / 4096 % 64 + 0x80 - 0x80)) * 64 +
        (value / 64 % 64 + 0x80 - 0x80)) * 64 + (value % 64 + 0x80 - 0x80) = value := by omega
    have top : value / 262144 % 8 = value / 262144 := by omega
    rw [if_neg three, List.foldl_cons, List.foldl_cons, List.foldl_cons, List.foldl_cons,
      List.foldl_nil, top, feed_first (by omega), start_opening lead,
      feed_next 1 least most (by omega), feed_next 0 (by omega) (by omega) (by omega),
      feed_last (by omega) (by omega) (by omega), total]

theorem feed_chars (read : List (Option Char)) (chars : List Char) :
    (chars.flatMap String.utf8EncodeChar).foldl Decoding.feed ⟨read, none⟩ =
      ⟨(chars.map some).reverse ++ read, none⟩ := by
  induction chars generalizing read with
  | nil => rfl
  | cons first rest induction =>
      rw [List.flatMap_cons, List.foldl_append, feed_char, induction, List.map_cons,
        List.reverse_cons, List.append_assoc, List.singleton_append]

/-- Encoded characters are well-formed and are read as themselves. -/
theorem decode_encoded (chars : List Char) :
    decodeStrict? (chars.flatMap String.utf8EncodeChar) = some chars := by
  have fed := feed_chars [] chars
  have copied : chars.mapM some = some (chars.map id) := List.mapM_pure
  rw [decodeStrict?, Decoding.ofBytes, fed, Decoding.finish]
  simpa using copied

/-- A character that is no control character has no control byte. -/
theorem encoded_above_controls {c : Char} (printed : 0x20 ≤ c.toNat) :
    ∀ byte ∈ String.utf8EncodeChar c, 0x20 ≤ byte.toNat := by
  have code : c.val.toNat = c.toNat := rfl
  have whole := char_code_cases c
  intro byte listed
  simp only [String.utf8EncodeChar, code] at listed
  -- in each form the first byte is at least the character's code or 0x80, the others are at least 0x80
  split at listed
  · simp only [List.mem_singleton] at listed
    rw [listed, UInt8.toNat_ofNat']
    omega
  · split at listed
    · simp only [List.mem_cons, List.not_mem_nil, or_false] at listed
      rcases listed with rfl | rfl <;> rw [UInt8.toNat_ofNat'] <;> omega
    · split at listed
      · simp only [List.mem_cons, List.not_mem_nil, or_false] at listed
        rcases listed with rfl | rfl | rfl <;> rw [UInt8.toNat_ofNat'] <;> omega
      · simp only [List.mem_cons, List.not_mem_nil, or_false] at listed
        rcases listed with rfl | rfl | rfl | rfl <;> rw [UInt8.toNat_ofNat'] <;> omega

end RpgSymbols.Text
