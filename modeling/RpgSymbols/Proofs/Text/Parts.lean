import Mathlib.Data.List.TakeWhile
import RpgSymbols.Proofs.Text.UpperCase
import RpgSymbols.Text.Blank

/-!
Parts between slashes. Cutting a text undoes joining parts that hold no slash, and upper-casing
makes no slash out of another letter, so a path in upper case still shows the parts it was made of.
-/

namespace RpgSymbols.Text

section Pieces

variable {cut : Char → Bool} {chars : List Char}

theorem pieces_of_uncut (uncut : ∀ c ∈ chars, cut c = false) : pieces cut chars = [chars] := by
  induction chars with
  | nil => rfl
  | cons first rest induction =>
      have whole := uncut first List.mem_cons_self
      have others := induction fun c listed => uncut c (List.mem_cons_of_mem _ listed)
      simp [pieces, whole, others]

theorem pieces_behind_cut (uncut : ∀ c ∈ chars, cut c = false) {separator : Char}
    (cuts : cut separator = true) (rest : List Char) :
    pieces cut (chars ++ separator :: rest) = chars :: pieces cut rest := by
  induction chars with
  | nil => simp [pieces, cuts]
  | cons first others induction =>
      have whole := uncut first List.mem_cons_self
      have behind := induction fun c listed => uncut c (List.mem_cons_of_mem _ listed)
      simp [pieces, whole, behind]

theorem mem_of_piece {piece : List Char} (listed : piece ∈ pieces cut chars) {c : Char}
    (member : c ∈ piece) : cut c = false ∧ c ∈ chars := by
  induction chars generalizing piece with
  | nil =>
      rw [pieces, List.mem_singleton] at listed
      rw [listed] at member
      cases member
  | cons first rest induction =>
      rw [pieces] at listed
      split at listed
      · rcases List.mem_cons.mp listed with rfl | later
        · cases member
        · obtain ⟨uncut, inside⟩ := induction later member
          exact ⟨uncut, List.mem_cons_of_mem _ inside⟩
      · rename_i uncut
        split at listed
        · rw [List.mem_singleton.mp listed, List.mem_singleton] at member
          exact ⟨member ▸ Bool.not_eq_true _ ▸ uncut, member ▸ List.mem_cons_self⟩
        · rename_i piece more same
          rw [same] at induction
          rcases List.mem_cons.mp listed with rfl | later
          · rcases List.mem_cons.mp member with rfl | inside
            · exact ⟨Bool.not_eq_true _ ▸ uncut, List.mem_cons_self⟩
            · obtain ⟨whole, inner⟩ := induction List.mem_cons_self inside
              exact ⟨whole, List.mem_cons_of_mem _ inner⟩
          · obtain ⟨whole, inner⟩ := induction (List.mem_cons_of_mem _ later) member
            exact ⟨whole, List.mem_cons_of_mem _ inner⟩

end Pieces

def SlashFree (text : String) : Prop := '/' ∉ text.toList

instance (text : String) : Decidable (SlashFree text) :=
  inferInstanceAs (Decidable ('/' ∉ text.toList))

theorem slash_free_part {text part : String} (listed : part ∈ split '/' text) :
    SlashFree part := by
  obtain ⟨piece, cutOut, rfl⟩ := List.mem_map.mp listed
  intro member
  rw [String.toList_ofList] at member
  have uncut := (mem_of_piece cutOut member).1
  simp at uncut

/-- Cutting a text elsewhere brings no slash into its parts. -/
theorem slash_free_of_part {separator : Char} {text part : String} (free : SlashFree text)
    (listed : part ∈ split separator text) : SlashFree part := by
  obtain ⟨piece, cutOut, rfl⟩ := List.mem_map.mp listed
  intro member
  rw [String.toList_ofList] at member
  exact free (mem_of_piece cutOut member).2

theorem slash_free_without_extension {text : String} (free : SlashFree text) :
    SlashFree (withoutExtension text) := by
  unfold withoutExtension
  dsimp only
  split
  · intro member
    rw [String.toList_ofList, List.mem_reverse] at member
    have inside := (List.dropWhile_sublist _).subset (List.mem_of_mem_drop member)
    exact free (List.mem_reverse.mp inside)
  · exact free

theorem to_list_upper (text : String) : (upper text).toList = text.toList.flatMap upperChar :=
  String.toList_ofList

section Separator

variable {separator : Char} {text : String} (absent : separator ∉ text.toList)
include absent

theorem uncut_of_absent : ∀ c ∈ text.toList, (c == separator) = false := by
  intro c listed
  rw [beq_eq_false_iff_ne]
  rintro rfl
  exact absent listed

theorem kept_of_absent : ∀ c ∈ text.toList, (c != separator) = true := by
  intro c listed
  rw [bne, uncut_of_absent absent c listed, Bool.not_false]

theorem split_alone : split separator text = [text] := by
  rw [split, pieces_of_uncut (uncut_of_absent absent), List.map_singleton, String.ofList_toList]

theorem before_uncut : before separator text = text := by
  rw [before, List.takeWhile_eq_self_iff.mpr (kept_of_absent absent), String.ofList_toList]

theorem after_uncut : after separator text = "" := by
  rw [after, List.dropWhile_eq_nil_iff.mpr (kept_of_absent absent), List.drop_nil]

omit absent in
theorem letters_around (text : String) (separator : Char) (rest : String) :
    (text ++ String.singleton separator ++ rest).toList =
      text.toList ++ separator :: rest.toList := by
  simp [String.toList_append]

theorem split_first (rest : String) :
    split separator (text ++ String.singleton separator ++ rest) = text :: split separator rest := by
  rw [split, letters_around, pieces_behind_cut (uncut_of_absent absent) (beq_self_eq_true separator),
    List.map_cons, String.ofList_toList, split]

theorem before_first (rest : String) :
    before separator (text ++ String.singleton separator ++ rest) = text := by
  rw [before, letters_around, List.takeWhile_append_of_pos (kept_of_absent absent),
    List.takeWhile_cons_of_neg (by simp), List.append_nil, String.ofList_toList]

theorem after_first (rest : String) :
    after separator (text ++ String.singleton separator ++ rest) = rest := by
  rw [after, letters_around, List.dropWhile_append_of_pos (kept_of_absent absent),
    List.dropWhile_cons_of_neg (by simp), List.drop_one, List.tail_cons, String.ofList_toList]

end Separator

theorem upper_append (first second : String) :
    upper (first ++ second) = upper first ++ upper second := by
  apply String.toList_injective
  simp only [to_list_upper, String.toList_append, List.flatMap_append]

theorem upper_slash : upper "/" = "/" := by
  decide +kernel

theorem upper_join (parts : List String) :
    upper (join "/" parts) = join "/" (parts.map upper) := by
  induction parts with
  | nil => decide +kernel
  | cons part rest induction =>
      cases rest with
      | nil => rfl
      | cons next rest =>
          simp only [join, upper_append, upper_slash, induction, List.map_cons]

theorem join_empty_cons {parts : List String} (some : parts ≠ []) :
    join "/" ("" :: parts) = "/" ++ join "/" parts := by
  obtain ⟨first, rest, rfl⟩ := List.exists_cons_of_ne_nil some
  rw [join, String.empty_append]
  exact List.cons_ne_nil _ _

theorem join_concat (separator : String) {parts : List String} (some : parts ≠ [])
    (last : String) :
    join separator (parts ++ [last]) = join separator parts ++ separator ++ last := by
  induction parts with
  | nil => exact absurd rfl some
  | cons part rest induction =>
      cases rest with
      | nil => rfl
      | cons next rest =>
          have others := induction (List.cons_ne_nil _ _)
          simp only [List.cons_append, join] at others ⊢
          rw [others]
          simp only [String.append_assoc]

theorem slash_of_upper_char {c : Char} (member : '/' ∈ upperChar c) : c = '/' := by
  rcases mem_char_cases upperMap member with ⟨same, _⟩ | image
  · exact same.symm
  · have absent : ('/' : Char).toNat ∉ upperMap.images := by decide +kernel
    exact absurd image absent

theorem slash_free_upper {text : String} (free : SlashFree text) : SlashFree (upper text) := by
  intro member
  rw [to_list_upper, List.mem_flatMap] at member
  obtain ⟨c, inside, slash⟩ := member
  exact free (slash_of_upper_char slash ▸ inside)

theorem split_join {parts : List String} (some : parts ≠ [])
    (free : ∀ part ∈ parts, SlashFree part) : split '/' (join "/" parts) = parts := by
  induction parts with
  | nil => exact absurd rfl some
  | cons part rest induction =>
      have first := free part List.mem_cons_self
      cases rest with
      | nil => exact split_alone first
      | cons next rest =>
          have others := induction (List.cons_ne_nil _ _)
            fun other listed => free other (List.mem_cons_of_mem _ listed)
          have behind := split_first first (join "/" (next :: rest))
          rw [others] at behind
          exact behind

end RpgSymbols.Text
