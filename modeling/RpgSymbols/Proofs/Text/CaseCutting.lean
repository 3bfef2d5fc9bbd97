import RpgSymbols.Proofs.Text.Parts

/-!
Upper-casing and cutting commute. A text is cut at characters that upper-casing leaves alone: they
stay as they are, and no other character turns into one of them. So the pieces of a text in upper
case are the pieces of the text, in upper case.
-/

namespace RpgSymbols.Text

/-- The code points of the characters that texts are cut at: blanks, commas, dots, semicolons and
slashes. -/
def cuttingCodes : List Nat :=
  List.range' 0x09 5 ++ List.range' 0x1C 5 ++ [0x2C, 0x2E, 0x2F, 0x3B, 0x85, 0xA0, 0x1680] ++
    List.range' 0x2000 11 ++ [0x2028, 0x2029, 0x202F, 0x205F, 0x3000]

/-- The tables of upper-casing name none of them, neither as a letter nor in an image. -/
theorem cutting_codes_apart :
    bits (upperMap.sources ++ upperMap.images) &&& bits cuttingCodes = 0 := by
  decide +kernel

theorem cutting_code_of_blank {c : Char} (blank : isBlank c = true) :
    c.toNat ∈ cuttingCodes := by
  unfold isBlank at blank
  simp only [Bool.or_eq_true, Bool.and_eq_true, decide_eq_true_eq, beq_iff_eq] at blank
  simp only [cuttingCodes, List.mem_append, List.mem_range'_1, List.mem_cons, List.not_mem_nil,
    or_false]
  omega

/-- Cutting characters are their own image, and no other image has one of them. -/
structure KeepsCuts (cut : Char → Bool) (image : Char → List Char) : Prop where
  stays : ∀ c, cut c = true → image c = [c]
  clear : ∀ c, cut c = false → ∀ letter ∈ image c, cut letter = false
  some : ∀ c, image c ≠ []

theorem upper_char_ne_nil (c : Char) : upperChar c ≠ [] := by
  have expands : ∀ entry ∈ upperMap.expansions, entry.2 ≠ [] := by decide +kernel
  unfold upperChar CaseMap.char
  split
  · rename_i image expanded
    exact mt List.map_eq_nil_iff.mp (expands _ (expanded_code_entry _ _ _ expanded))
  · split
    · exact List.cons_ne_nil _ _
    · exact List.cons_ne_nil _ _

theorem upper_eq_empty {text : String} : upper text = "" ↔ text = "" := by
  constructor
  · intro empty
    have letters := congrArg String.toList empty
    rw [to_list_upper] at letters
    cases chars : text.toList with
    | nil => exact String.toList_injective chars
    | cons c rest =>
        rw [chars, List.flatMap_cons] at letters
        exact absurd (List.append_eq_nil_iff.mp letters).1 (upper_char_ne_nil c)
  · rintro rfl
    decide +kernel

theorem upper_keeps_untouched {cut : Char → Bool}
    (untouched : ∀ c, cut c = true → c.toNat ∉ upperMap.sources ++ upperMap.images) :
    KeepsCuts cut upperChar := by
  refine ⟨?_, ?_, upper_char_ne_nil⟩
  · intro c named
    apply char_of_not_source
    exact fun listed => untouched c named (List.mem_append_left _ listed)
  · intro c uncut letter member
    rcases mem_char_cases upperMap member with ⟨rfl, _⟩ | listed
    · exact uncut
    · rw [← Bool.not_eq_true]
      exact fun named => untouched letter named (List.mem_append_right _ listed)

theorem upper_keeps_cuts {cut : Char → Bool} (cuts : ∀ c, cut c = true → c.toNat ∈ cuttingCodes) :
    KeepsCuts cut upperChar :=
  upper_keeps_untouched fun c named => disjoint_of_bits _ _ cutting_codes_apart _ (cuts c named)

theorem upper_keeps_blanks : KeepsCuts isBlank upperChar :=
  upper_keeps_cuts fun _ blank => cutting_code_of_blank blank

theorem upper_keeps_char {separator : Char} (listed : separator.toNat ∈ cuttingCodes) :
    KeepsCuts (· == separator) upperChar :=
  upper_keeps_cuts fun _ same => eq_of_beq same ▸ listed

theorem pieces_ne_nil (cut : Char → Bool) (chars : List Char) : pieces cut chars ≠ [] := by
  cases chars with
  | nil => exact List.cons_ne_nil _ _
  | cons c rest =>
      unfold pieces
      split
      · exact List.cons_ne_nil _ _
      · split <;> exact List.cons_ne_nil _ _

/-- Letters in front belong to the first piece. -/
theorem pieces_behind_letters {cut : Char → Bool} {letters : List Char}
    (clear : ∀ c ∈ letters, cut c = false) (chars : List Char) :
    pieces cut (letters ++ chars) = (pieces cut chars).modifyHead (letters ++ ·) := by
  induction letters with
  | nil =>
      rw [List.nil_append]
      cases pieces cut chars <;> rfl
  | cons c rest induction =>
      have first : cut c = false := clear c List.mem_cons_self
      have others := induction fun letter listed => clear letter (List.mem_cons_of_mem _ listed)
      obtain ⟨piece, more, found⟩ := List.exists_cons_of_ne_nil (pieces_ne_nil cut chars)
      rw [found] at others
      simp [pieces, first, others, found]

section Cutting

variable {cut : Char → Bool} {image : Char → List Char} (keeps : KeepsCuts cut image)
include keeps

theorem KeepsCuts.uncut {c : Char} (cuts : cut c = false) :
    ∀ letter ∈ image c, (!cut letter) = true := by
  intro letter member
  rw [keeps.clear c cuts letter member, Bool.not_false]

theorem KeepsCuts.begins_uncut {c : Char} (cuts : cut c = false) :
    ∃ letter letters, image c = letter :: letters ∧ cut letter = false := by
  obtain ⟨letter, letters, spelled⟩ := List.exists_cons_of_ne_nil (keeps.some c)
  exact ⟨letter, letters, spelled, keeps.clear c cuts letter (spelled ▸ List.mem_cons_self)⟩

theorem take_until_cut (chars : List Char) :
    (chars.flatMap image).takeWhile (!cut ·) = (chars.takeWhile (!cut ·)).flatMap image := by
  induction chars with
  | nil => rfl
  | cons c rest induction =>
      rw [List.flatMap_cons]
      cases cuts : cut c with
      | true => simp [keeps.stays c cuts, cuts]
      | false =>
          rw [List.takeWhile_append_of_pos (keeps.uncut cuts), induction,
            List.takeWhile_cons_of_pos (by rw [cuts, Bool.not_false]), List.flatMap_cons]

theorem drop_until_cut (chars : List Char) :
    (chars.flatMap image).dropWhile (!cut ·) = (chars.dropWhile (!cut ·)).flatMap image := by
  induction chars with
  | nil => rfl
  | cons c rest induction =>
      rw [List.flatMap_cons]
      cases cuts : cut c with
      | true => simp [keeps.stays c cuts, cuts]
      | false =>
          rw [List.dropWhile_append_of_pos (keeps.uncut cuts), induction,
            List.dropWhile_cons_of_pos (by rw [cuts, Bool.not_false])]

/-- What stands behind the first cut. -/
theorem drop_cut (chars : List Char) :
    ((chars.flatMap image).dropWhile (!cut ·)).drop 1 =
      ((chars.dropWhile (!cut ·)).drop 1).flatMap image := by
  rw [drop_until_cut keeps]
  cases behind : chars.dropWhile (!cut ·) with
  | nil => rfl
  | cons c rest =>
      have cuts : (!cut c) = false := by
        have stops := List.head?_dropWhile_not (!cut ·) chars
        rw [behind] at stops
        simpa using stops
      rw [List.flatMap_cons, keeps.stays c (by simpa using cuts)]
      rfl

theorem cut_in_image_iff (chars : List Char) :
    (chars.flatMap image).any cut = chars.any cut := by
  induction chars with
  | nil => rfl
  | cons c rest induction =>
      rw [List.flatMap_cons, List.any_append, induction, List.any_cons]
      cases cuts : cut c with
      | true => simp [keeps.stays c cuts, cuts]
      | false =>
          have clear : (image c).any cut = false := by
            simpa using keeps.clear c cuts
          rw [clear]

theorem drop_cuts (chars : List Char) :
    (chars.flatMap image).dropWhile cut = (chars.dropWhile cut).flatMap image := by
  induction chars with
  | nil => rfl
  | cons c rest induction =>
      rw [List.flatMap_cons]
      cases cuts : cut c with
      | true => simp [keeps.stays c cuts, cuts, induction]
      | false =>
          obtain ⟨letter, letters, spelled, clear⟩ := keeps.begins_uncut cuts
          rw [List.dropWhile_cons_of_neg (by simp [cuts]), List.flatMap_cons, spelled,
            List.cons_append, List.dropWhile_cons_of_neg (by simp [clear])]

/-- The cuts that a text begins with stay. -/
theorem take_cuts (chars : List Char) :
    (chars.flatMap image).takeWhile cut = chars.takeWhile cut := by
  induction chars with
  | nil => rfl
  | cons c rest induction =>
      rw [List.flatMap_cons]
      cases cuts : cut c with
      | true => simp [keeps.stays c cuts, cuts, induction]
      | false =>
          obtain ⟨letter, letters, spelled, clear⟩ := keeps.begins_uncut cuts
          rw [List.takeWhile_cons_of_neg (by simp [cuts]), spelled, List.cons_append,
            List.takeWhile_cons_of_neg (by simp [clear])]

theorem pieces_of_image (chars : List Char) :
    pieces cut (chars.flatMap image) = (pieces cut chars).map (List.flatMap image) := by
  induction chars with
  | nil => rfl
  | cons c rest induction =>
      rw [List.flatMap_cons]
      cases cuts : cut c with
      | true => simp [keeps.stays c cuts, pieces, cuts, induction]
      | false =>
          have alone : ∀ letter ∈ [c], cut letter = false := by simpa using cuts
          rw [pieces_behind_letters (keeps.clear c cuts), induction, ← List.singleton_append,
            pieces_behind_letters alone]
          cases pieces cut rest <;> simp

/-- An image that is read backwards is as clear of cuts. -/
theorem keeps_cuts_reverse : KeepsCuts cut fun c => (image c).reverse := by
  constructor
  · intro c cuts
    rw [keeps.stays c cuts]
    rfl
  · intro c uncut letter member
    exact keeps.clear c uncut letter (List.mem_reverse.mp member)
  · intro c empty
    exact keeps.some c (List.reverse_eq_nil_iff.mp empty)

end Cutting

theorem upper_of_list (chars : List Char) :
    upper (String.ofList chars) = String.ofList (chars.flatMap upperChar) := by
  rw [upper, CaseMap.text, String.toList_ofList]
  rfl

/-- A text is what it is in upper case if that is made of cutting characters alone. -/
theorem upper_of_cuts {separator : Char} (listed : separator.toNat ∈ cuttingCodes) {text : String}
    (cuts : ∀ c ∈ (upper text).toList, c = separator) : upper text = text := by
  have keeps := upper_keeps_char listed
  have stays : ∀ c ∈ text.toList, upperChar c = [c] := by
    intro c member
    apply keeps.stays
    rw [beq_iff_eq]
    refine Classical.byContradiction fun other => ?_
    obtain ⟨letter, inside⟩ := List.exists_mem_of_ne_nil _ (keeps.some c)
    have uncut := keeps.clear c (beq_eq_false_iff_ne.mpr other) letter inside
    have image : letter ∈ (upper text).toList := by
      rw [to_list_upper]
      exact List.mem_flatMap.mpr ⟨c, member, inside⟩
    rw [cuts letter image, beq_self_eq_true] at uncut
    cases uncut
  apply String.toList_injective
  rw [to_list_upper, List.flatMap_def, List.map_congr_left stays, ← List.flatMap_def,
    List.flatMap_singleton']

theorem upper_only_cuts {separator : Char} (listed : separator.toNat ∈ cuttingCodes) {text : String}
    (only : ∀ c ∈ text.toList, c = separator) : upper text = text := by
  apply upper_of_cuts listed
  intro letter member
  rw [to_list_upper, List.mem_flatMap] at member
  obtain ⟨c, inside, image⟩ := member
  have cuts : (c == separator) = true := beq_iff_eq.mpr (only c inside)
  rw [(upper_keeps_char listed).stays c cuts, List.mem_singleton] at image
  rw [image, only c inside]

theorem upper_eq_only_cuts {separator : Char} (listed : separator.toNat ∈ cuttingCodes)
    {text : String} (only : ∀ c ∈ text.toList, c = separator) (name : String) :
    upper name = text ↔ name = text := by
  constructor
  · intro same
    have kept : upper name = name :=
      upper_of_cuts listed fun c member => only c (same ▸ member)
    exact kept.symm.trans same
  · rintro rfl
    exact upper_only_cuts listed only

theorem trim_upper (text : String) : trim (upper text) = upper (trim text) := by
  have left := drop_cuts upper_keeps_blanks text.toList
  have right := drop_cuts (keeps_cuts_reverse upper_keeps_blanks)
    (text.toList.dropWhile isBlank).reverse
  rw [trim, trim, upper_of_list, to_list_upper, trimChars, trimChars, trimLeftChars,
    trimLeftChars, trimRightChars, trimRightChars, left, List.reverse_flatMap]
  simp only [Function.comp_def]
  rw [right, List.reverse_flatMap]
  simp only [Function.comp_def, List.reverse_reverse]

theorem before_upper {separator : Char} (listed : separator.toNat ∈ cuttingCodes) (text : String) :
    before separator (upper text) = upper (before separator text) := by
  rw [before, before, upper_of_list, to_list_upper]
  exact congrArg String.ofList (take_until_cut (upper_keeps_char listed) text.toList)

theorem without_extension_upper (text : String) :
    withoutExtension (upper text) = upper (withoutExtension text) := by
  have keeps : KeepsCuts (· == '.') upperChar := upper_keeps_char (by decide)
  have dots : (text.toList.flatMap upperChar).contains '.' = text.toList.contains '.' := by
    have same := cut_in_image_iff keeps text.toList
    simpa only [List.any_beq'] using same
  have front := congrArg List.reverse (drop_cut (keeps_cuts_reverse keeps) text.toList.reverse)
  rw [List.reverse_flatMap] at front
  simp only [Function.comp_def, List.reverse_reverse] at front
  rw [withoutExtension, withoutExtension, to_list_upper, List.reverse_flatMap, dots]
  split
  · rw [upper_of_list]
    exact congrArg String.ofList front
  · rfl

theorem split_upper {separator : Char} (listed : separator.toNat ∈ cuttingCodes) (text : String) :
    split separator (upper text) = (split separator text).map upper := by
  rw [split, split, to_list_upper, pieces_of_image (upper_keeps_char listed), List.map_map,
    List.map_map]
  simp only [Function.comp_def, upper_of_list]

theorem words_upper (text : String) : words (upper text) = (words text).map upper := by
  have kept : ∀ word : List Char,
      (!(word.flatMap upperChar).isEmpty) = !word.isEmpty := by
    intro word
    cases word with
    | nil => rfl
    | cons c rest => simp [upper_char_ne_nil c]
  rw [words, words, to_list_upper, wordsChars, wordsChars, pieces_of_image upper_keeps_blanks,
    List.filter_map, List.map_map, List.map_map]
  simp only [Function.comp_def, kept, upper_of_list]

end RpgSymbols.Text
