import RpgSymbols.Proofs.Include.MemberTargets

/-!
The case of a target does not matter. Upper-casing leaves alone what a target is taken apart at:
blanks, quotes, slashes, commas and dots. So every step of a resolution can be taken before or after
it, and since it comes last, taking it first as well changes nothing.
-/

namespace RpgSymbols

open Text SlashPath

namespace Text

theorem upper_keeps_quotes : KeepsCuts (· == '\'') upperChar := by
  apply upper_keeps_untouched
  intro c quotes
  rw [eq_of_beq quotes]
  decide +kernel

section Ends

variable {separator : Char} {image : Char → List Char} (keeps : KeepsCuts (· == separator) image)
include keeps

theorem head_of_image (chars : List Char) :
    ((chars.flatMap image).head? == some separator) = (chars.head? == some separator) := by
  cases chars with
  | nil => rfl
  | cons c rest =>
      rw [List.flatMap_cons]
      cases same : c == separator with
      | true => simp [keeps.stays c same, same]
      | false =>
          obtain ⟨letter, letters, spelled⟩ := List.exists_cons_of_ne_nil (keeps.some c)
          have other : (letter == separator) = false :=
            keeps.clear c same letter (spelled ▸ List.mem_cons_self)
          simp [spelled, same, other]

theorem last_of_image (chars : List Char) :
    ((chars.flatMap image).getLast? == some separator) = (chars.getLast? == some separator) := by
  have turned := head_of_image (keeps_cuts_reverse keeps) chars.reverse
  rw [← List.head?_reverse, ← List.head?_reverse, List.reverse_flatMap]
  exact turned

/-- A separator in front is one letter, before and after. -/
theorem behind_head_of_image {chars : List Char} (begins : (chars.head? == some separator) = true) :
    (chars.flatMap image).drop 1 = (chars.drop 1).flatMap image := by
  obtain ⟨rest, rfl⟩ := List.head?_eq_some_iff.mp (eq_of_beq begins)
  rw [List.flatMap_cons, keeps.stays separator (beq_self_eq_true separator)]
  rfl

theorem before_last_of_image {chars : List Char}
    (ends : (chars.getLast? == some separator) = true) :
    (chars.flatMap image).dropLast = chars.dropLast.flatMap image := by
  obtain ⟨front, rfl⟩ := List.getLast?_eq_some_iff.mp (eq_of_beq ends)
  rw [List.flatMap_append, List.flatMap_singleton,
    keeps.stays separator (beq_self_eq_true separator), List.dropLast_concat, List.dropLast_concat]

end Ends

theorem starts_with_slash (text : String) :
    startsWith text "/" = (text.toList.head? == some '/') := by
  unfold startsWith
  cases text.toList with
  | nil => rfl
  | cons c rest =>
      change ('/' == c && true) = (some c == some '/')
      rw [Bool.and_true, Bool.beq_comm]
      rfl

theorem ends_with_slash (text : String) :
    endsWith text "/" = (text.toList.getLast? == some '/') := by
  have turned := starts_with_slash (String.ofList text.toList.reverse)
  simp only [startsWith, String.toList_ofList] at turned
  rw [← List.head?_reverse]
  exact turned

theorem upper_keeps_slashes : KeepsCuts (· == '/') upperChar := upper_keeps_char (by decide)

theorem starts_with_slash_upper (text : String) :
    startsWith (upper text) "/" = startsWith text "/" := by
  rw [starts_with_slash, starts_with_slash, to_list_upper, head_of_image upper_keeps_slashes]

theorem ends_with_slash_upper (text : String) : endsWith (upper text) "/" = endsWith text "/" := by
  rw [ends_with_slash, ends_with_slash, to_list_upper, last_of_image upper_keeps_slashes]

theorem is_empty_upper (text : String) : (upper text).isEmpty = text.isEmpty := by
  rw [Bool.eq_iff_iff, String.isEmpty_iff, String.isEmpty_iff]
  exact upper_eq_empty

end Text

/-! Paths in normal form. -/

namespace SlashPath

/-- Only the slashes in front are counted. -/
theorem leading_slashes_counted (path : String) :
    leadingSlashes path =
      match path.toList.takeWhile (· == '/') with
      | [] => 0
      | [_] => 1
      | [_, _] => 2
      | _ => 1 := by
  unfold leadingSlashes
  cases path.toList with
  | nil => rfl
  | cons first behind =>
      by_cases one : first = '/'
      · subst one
        cases behind with
        | nil => rfl
        | cons second behind =>
            by_cases two : second = '/'
            · subst two
              cases behind with
              | nil => rfl
              | cons third behind => by_cases three : third = '/' <;> simp [three]
            · simp [two]
      · simp [one]

theorem leading_slashes_upper (path : String) :
    leadingSlashes (upper path) = leadingSlashes path := by
  rw [leading_slashes_counted, leading_slashes_counted, to_list_upper,
    take_cuts upper_keeps_slashes]

theorem push_part_upper (absolute : Bool) (done : List String) (part : String) :
    pushPart absolute (done.map upper) (upper part) = (pushPart absolute done part).map upper := by
  have dot : ('.').toNat ∈ cuttingCodes := by decide
  have empty : upper part = "" ↔ part = "" := upper_eq_empty
  have stays : upper part = "." ↔ part = "." := upper_eq_only_cuts dot (by simp) part
  have climbs : ∀ name, upper name = ".." ↔ name = ".." := upper_eq_only_cuts dot (by simp)
  have kept : upper ".." = ".." := (climbs "..").mpr rfl
  unfold pushPart
  simp only [empty, stays, climbs]
  split
  · rfl
  split
  · cases done with
    | nil => cases absolute <;> simp [kept]
    | cons last rest =>
        simp only [List.map_cons, climbs]
        split
        · simp [kept]
        · rfl
  · rfl

theorem normal_parts_upper (absolute : Bool) (parts : List String) :
    normalParts absolute (parts.map upper) = (normalParts absolute parts).map upper := by
  have pushed : ∀ done : List String,
      (parts.map upper).foldl (pushPart absolute) (done.map upper) =
        (parts.foldl (pushPart absolute) done).map upper := by
    induction parts with
    | nil => exact fun _ => rfl
    | cons part rest induction =>
        intro done
        rw [List.map_cons, List.foldl_cons, List.foldl_cons, push_part_upper]
        exact induction _
  have start := pushed []
  rw [List.map_nil] at start
  rw [normalParts, normalParts, start, List.map_reverse]

theorem normalize_upper (path : String) : normalize (upper path) = upper (normalize path) := by
  have slash : ('/').toNat ∈ cuttingCodes := by decide
  have cuts : ('.').toNat ∈ cuttingCodes := by decide
  have dot : upper "." = "." := upper_only_cuts cuts (by simp)
  have front : ∀ count, upper (String.ofList (List.replicate count '/')) =
      String.ofList (List.replicate count '/') := by
    intro count
    apply upper_only_cuts slash
    simp
  unfold normalize
  dsimp only
  rw [leading_slashes_upper, split_upper slash, normal_parts_upper, ← upper_join,
    ← front (leadingSlashes path), ← upper_append, is_empty_upper, front]
  split
  · exact dot.symm
  · rfl

theorem join_texts_upper (base relative : String) :
    joinTexts (upper base) (upper relative) = upper (joinTexts base relative) := by
  unfold joinTexts
  rw [starts_with_slash_upper, is_empty_upper, ends_with_slash_upper]
  split
  · rfl
  split
  · exact (upper_append base relative).symm
  · rw [upper_append, upper_append, upper_slash]

end SlashPath

/-- The same reason, of the target and the document in upper case. -/
def Unresolvable.inUpperCase : Unresolvable → Unresolvable
  | .incompleteMember target path => .incompleteMember (upper target) (upper path)
  | reason => reason

def Document.inUpperCase (document : Document) : Document :=
  ⟨document.scheme, upper document.path⟩

theorem unquote_upper (target : String) : unquote (upper target) = upper (unquote target) := by
  have opened : ∀ chars : List Char,
      (if (chars.flatMap upperChar).head? == some '\'' then (chars.flatMap upperChar).drop 1
        else chars.flatMap upperChar) =
      (if chars.head? == some '\'' then chars.drop 1 else chars).flatMap upperChar := by
    intro chars
    rw [head_of_image upper_keeps_quotes]
    split
    · rename_i begins
      exact behind_head_of_image upper_keeps_quotes begins
    · rfl
  rw [unquote, unquote, upper_of_list, to_list_upper, unquoteChars, unquoteChars, opened]
  generalize (if target.toList.head? == some '\'' then target.toList.drop 1 else target.toList) =
    chars
  rw [last_of_image upper_keeps_quotes]
  split
  · rename_i ends
    rw [before_last_of_image upper_keeps_quotes ends]
  · rfl

theorem resolve_stream_upper (home target : String) :
    resolveStream (upper home) (upper target) =
      (resolveStream home target).mapError Unresolvable.inUpperCase := by
  have below : (if (upper home).isEmpty then "/" else upper home) =
      upper (if home.isEmpty then "/" else home) := by
    rw [is_empty_upper]
    split
    · exact upper_slash.symm
    · rfl
  unfold resolveStream
  dsimp only
  rw [unquote_upper, is_empty_upper, starts_with_slash_upper, below, join_texts_upper,
    normalize_upper]
  split
  · rfl
  split
  · rw [upper_upper]
    rfl
  · rw [upper_upper]
    rfl

theorem inherited_upper (path : String) :
    inherited (upper path) =
      ((inherited path).1.map upper, (inherited path).2.1.map upper,
        upper (inherited path).2.2) := by
  have default : upper defaultSourceFile = defaultSourceFile := by decide +kernel
  unfold inherited
  rw [split_upper (by decide)]
  rcases split '/' path with _ | ⟨a, _ | ⟨b, _ | ⟨c, _ | ⟨d, _ | ⟨e, _ | ⟨f, rest⟩⟩⟩⟩⟩⟩
  all_goals simp [default]

theorem last_or_empty_upper (parts : List String) :
    lastOrEmpty (parts.map upper) = upper (lastOrEmpty parts) := by
  have empty : upper "" = "" := upper_eq_empty.mpr rfl
  rw [lastOrEmpty, lastOrEmpty, List.getLast?_map]
  cases parts.getLast? with
  | none => exact empty.symm
  | some part => rfl

theorem get_or_empty_upper (text : Option String) : (text.map upper).getD "" = upper (text.getD "") := by
  cases text with
  | none => exact (upper_eq_empty.mpr rfl).symm
  | some text => rfl

/-- The document and the target in upper case spell the address in upper case. -/
theorem spelled_member_upper (path target : String) :
    spelledMember (upper path) (upper target) = (spelledMember path target).inUpperCase := by
  unfold spelledMember MemberAddress.inUpperCase
  dsimp only
  have slash : ('/').toNat ∈ cuttingCodes := by decide
  have comma : (',').toNat ∈ cuttingCodes := by decide
  simp only [split_upper slash, last_or_empty_upper, split_upper comma, inherited_upper]
  generalize inherited path = lent
  generalize split ',' (lastOrEmpty (split '/' target)) = memberParts
  generalize split '/' target = libraryParts
  have group : ((lent.1.map upper).filter fun name => !name.isEmpty) =
      (lent.1.filter fun name => !name.isEmpty).map upper := by
    cases lent.1 with
    | none => rfl
    | some group =>
        rw [Option.map_some, Option.filter_some, Option.filter_some, is_empty_upper]
        split <;> rfl
  rw [MemberAddress.mk.injEq]
  refine ⟨group, ?_, ?_, ?_⟩
  · rcases libraryParts with _ | ⟨first, _ | ⟨second, _ | ⟨third, more⟩⟩⟩
    · exact get_or_empty_upper lent.2.1
    · exact get_or_empty_upper lent.2.1
    · rfl
    · exact get_or_empty_upper lent.2.1
  · rcases memberParts with _ | ⟨first, _ | ⟨second, _ | ⟨third, more⟩⟩⟩ <;> rfl
  · rw [← without_extension_upper]
    apply congrArg withoutExtension
    rcases memberParts with _ | ⟨first, _ | ⟨second, _ | ⟨third, more⟩⟩⟩
    · rfl
    · rfl
    · rfl
    · exact last_or_empty_upper (first :: second :: third :: more)

namespace MemberAddress

theorem in_upper_case_twice (address : MemberAddress) :
    address.inUpperCase.inUpperCase = address.inUpperCase := by
  simp only [inUpperCase, Option.map_map, Function.comp_def, upper_upper]

end MemberAddress

theorem resolve_member_upper (path target : String) :
    resolveMember (upper path) (upper target) =
      (resolveMember path target).mapError Unresolvable.inUpperCase := by
  have alike := MemberAddress.resolved_alike
    (MemberAddress.in_upper_case_twice (spelledMember path target))
  rw [resolve_member_spelled, resolve_member_spelled, spelled_member_upper]
  dsimp only
  rw [MemberAddress.inUpperCase, is_empty_upper, is_empty_upper, is_empty_upper]
  split
  · rfl
  · exact congrArg Except.ok alike

/-- Resolution fails in upper case exactly when it fails, for the same reason, and otherwise gives
the same address. -/
theorem resolve_in_upper_case (home : String) (document : Document) (target : String) :
    resolve (upper home) document.inUpperCase (upper target) =
      (resolve home document target).mapError Unresolvable.inUpperCase := by
  unfold resolve
  dsimp only [Document.inUpperCase]
  rw [trim_upper, is_empty_upper]
  split
  · rfl
  cases Addressing.ofName? document.scheme with
  | none => rfl
  | some addressing =>
      cases addressing with
      | member => exact resolve_member_upper document.path (trim target)
      | streamFile => exact resolve_stream_upper home (trim target)

end RpgSymbols
