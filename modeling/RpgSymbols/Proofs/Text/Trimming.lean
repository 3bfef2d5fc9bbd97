import Mathlib.Data.List.Basic
import Mathlib.Data.List.Induction
import RpgSymbols.Proofs.Text.Parts

/-!
Texts without blanks at their ends. Trimming leaves no blank at either end and changes nothing where
there is none, so it can be done again, and before texts are put together, without effect.
-/

namespace RpgSymbols.Text

theorem drop_while_blank {chars : List Char} (clear : ∀ c ∈ chars.head?, isBlank c = false) :
    chars.dropWhile isBlank = chars := by
  cases chars with
  | nil => rfl
  | cons c rest =>
      apply List.dropWhile_cons_of_neg
      rw [clear c rfl]
      exact Bool.false_ne_true

theorem trim_chars_of_ends {chars : List Char} (first : ∀ c ∈ chars.head?, isBlank c = false)
    (last : ∀ c ∈ chars.getLast?, isBlank c = false) : trimChars chars = chars := by
  have behind : ∀ c ∈ chars.reverse.head?, isBlank c = false := by
    rwa [List.head?_reverse]
  rw [trimChars, trimRightChars, trimLeftChars, drop_while_blank first, drop_while_blank behind,
    List.reverse_reverse]

theorem trim_chars_around {before chars behind : List Char}
    (early : ∀ c ∈ before, isBlank c = true) (late : ∀ c ∈ behind, isBlank c = true)
    (some : chars ≠ []) (first : ∀ c ∈ chars.head?, isBlank c = false)
    (last : ∀ c ∈ chars.getLast?, isBlank c = false) :
    trimChars (before ++ (chars ++ behind)) = chars := by
  have left : trimLeftChars (before ++ (chars ++ behind)) = chars ++ behind := by
    rw [trimLeftChars, List.dropWhile_append_of_pos early]
    apply drop_while_blank
    rwa [List.head?_append_of_ne_nil _ some]
  have late' : ∀ c ∈ behind.reverse, isBlank c = true :=
    fun c listed => late c (List.mem_reverse.mp listed)
  rw [trimChars, left, trimRightChars, List.reverse_append, List.dropWhile_append_of_pos late',
    drop_while_blank (by rwa [List.head?_reverse]), List.reverse_reverse]

theorem trim_of_clear {text : String} (clear : ∀ c ∈ text.toList, isBlank c = false) :
    trim text = text := by
  have kept : trimChars text.toList = text.toList := by
    apply trim_chars_of_ends
    · exact fun c leads => clear c (List.mem_of_mem_head? leads)
    · exact fun c ends => clear c (List.mem_of_mem_getLast? ends)
  rw [trim, kept, String.ofList_toList]

theorem first_of_trimmed (chars : List Char) : ∀ c ∈ (trimChars chars).head?, isBlank c = false := by
  intro c leads
  have front : trimChars chars <+: chars.dropWhile isBlank := by
    rw [← List.reverse_suffix, trimChars, trimRightChars, List.reverse_reverse]
    exact List.dropWhile_suffix _
  have stops := List.head?_dropWhile_not isBlank chars
  obtain ⟨rest, spelled⟩ := front
  rw [← spelled, List.head?_append, leads] at stops
  simpa using stops

theorem last_of_trimmed (chars : List Char) :
    ∀ c ∈ (trimChars chars).getLast?, isBlank c = false := by
  intro c ends
  have stops := List.head?_dropWhile_not isBlank (trimLeftChars chars).reverse
  rw [trimChars, trimRightChars, List.getLast?_reverse] at ends
  rw [ends] at stops
  simpa using stops

theorem trim_trim (text : String) : trim (trim text) = trim text := by
  rw [trim, trim, String.toList_ofList]
  apply congrArg
  exact trim_chars_of_ends (first_of_trimmed _) (last_of_trimmed _)

theorem trim_behind_blank (text : String) : trim (" " ++ text) = trim text := by
  have letters : (" " ++ text).toList = ' ' :: text.toList := by
    rw [String.toList_append]
    rfl
  rw [trim, trim, letters]
  rfl

structure Trimmed (text : String) : Prop where
  ends : trim text = text
  some : text ≠ ""

namespace Trimmed

variable {text : String} (trimmed : Trimmed text)
include trimmed

theorem chars : trimChars text.toList = text.toList := by
  have letters := congrArg String.toList trimmed.ends
  rwa [trim, String.toList_ofList] at letters

theorem letters : text.toList ≠ [] := by
  simpa using trimmed.some

theorem around_blank {other : String} (behind : Trimmed other) :
    Trimmed (text ++ " " ++ other) := by
  have spelled : (text ++ " " ++ other).toList = text.toList ++ ' ' :: other.toList := by
    simp [String.toList_append]
  have kept : trimChars (text.toList ++ ' ' :: other.toList) =
      text.toList ++ ' ' :: other.toList := by
    apply trim_chars_of_ends
    · rw [List.head?_append_of_ne_nil _ trimmed.letters, ← trimmed.chars]
      exact first_of_trimmed _
    · rw [List.getLast?_append_of_ne_nil _ (List.cons_ne_nil _ _),
        List.getLast?_cons_of_ne_nil behind.letters, ← behind.chars]
      exact last_of_trimmed _
  constructor
  · rw [trim, spelled, kept, ← spelled, String.ofList_toList]
  · intro empty
    rw [empty] at spelled
    simp at spelled

end Trimmed

/-- Trimmed texts with blanks between them are trimmed. -/
theorem trimmed_join {parts : List String} (some : parts ≠ [])
    (trimmed : ∀ part ∈ parts, Trimmed part) : Trimmed (join " " parts) := by
  induction parts using List.reverseRecOn with
  | nil => exact absurd rfl some
  | append_singleton front last induction =>
      have ending := trimmed last (List.mem_append_right _ List.mem_cons_self)
      by_cases alone : front = []
      · rw [alone]
        exact ending
      · have before := induction alone fun part listed =>
          trimmed part (List.mem_append_left _ listed)
        rw [join_concat " " alone]
        exact before.around_blank ending

/-- So is one more of them behind the others, whether or not there are any. -/
theorem trim_join_concat {parts : List String} {last : String}
    (trimmed : ∀ part ∈ parts, Trimmed part) (ending : Trimmed last) :
    trim (join " " parts ++ " " ++ last) = join " " (parts ++ [last]) := by
  by_cases none : parts = []
  · rw [none, join, String.empty_append, trim_behind_blank]
    exact ending.ends
  · rw [join_concat " " none]
    exact ((trimmed_join none trimmed).around_blank ending).ends

end RpgSymbols.Text
