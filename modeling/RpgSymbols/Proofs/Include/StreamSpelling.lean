import RpgSymbols.Cache.Model
import RpgSymbols.Proofs.Files.Lexical
import RpgSymbols.Proofs.Include.CaselessTargets

/-!
Spellings of stream files. A target that starts from the home directory is put in normal form, while
an absolute one is taken as it is written. So two targets that name the same file are known by one
path if each is relative or in normal form; otherwise they are known by one path only if they are
written alike.
-/

namespace RpgSymbols

open Text SlashPath FileTree

namespace Text

/-- Joining undoes cutting. -/
theorem join_split (text : String) : join "/" (split '/' text) = text := by
  have letters : ∀ chars : List Char,
      join "/" ((pieces (· == '/') chars).map String.ofList) = String.ofList chars := by
    intro chars
    induction chars with
    | nil => rfl
    | cons c rest induction =>
        obtain ⟨piece, more, found⟩ := List.exists_cons_of_ne_nil (pieces_ne_nil (· == '/') rest)
        rw [found] at induction
        apply String.toList_injective
        rw [String.toList_ofList, pieces]
        split
        · rename_i cuts
          rw [found, List.map_cons, join_empty_cons (by simp), induction, eq_of_beq cuts]
          simp
        · rw [found, ← @String.toList_ofList rest, ← induction]
          cases more <;> simp [join]
  rw [split, letters, String.ofList_toList]

theorem split_behind_slashes (count : Nat) (text : String) :
    split '/' (String.ofList (List.replicate count '/') ++ text) =
      List.replicate count "" ++ split '/' text := by
  induction count with
  | zero => simp
  | succ count induction =>
      have absent : '/' ∉ "".toList := by decide
      have spelled : String.ofList (List.replicate (count + 1) '/') ++ text =
          "" ++ String.singleton '/' ++ (String.ofList (List.replicate count '/') ++ text) := by
        apply String.toList_injective
        simp [List.replicate_succ]
      rw [spelled, split_first absent, induction, List.replicate_succ, List.cons_append]

/-- Parts that are the same in upper case, and the same where they are not empty, are the same. -/
theorem parts_alike {one other : List String} (alike : one.map upper = other.map upper)
    (kept : one.filter (· != "") = other.filter (· != "")) : one = other := by
  induction one generalizing other with
  | nil => exact (List.map_eq_nil_iff.mp alike.symm).symm
  | cons part rest induction =>
      obtain ⟨first, others, rfl, same, later⟩ := List.map_eq_cons_iff.mp alike.symm
      have empty : part = "" ↔ first = "" := by
        rw [← upper_eq_empty, ← same, upper_eq_empty]
      by_cases none : part = ""
      · have alone := empty.mp none
        rw [none, alone] at kept ⊢
        rw [induction later.symm (by simpa using kept)]
      · have named := mt empty.mpr none
        rw [List.filter_cons_of_pos (by simpa using none),
          List.filter_cons_of_pos (by simpa using named)] at kept
        obtain ⟨rfl, more⟩ := List.cons_eq_cons.mp kept
        rw [induction later.symm more]

end Text

/-! The normal form of an absolute path. -/

namespace SlashPath

def normalNames (path : String) : List String := normalParts true (split '/' path)

theorem normal_names_plain (path : String) : PlainPlace (normalNames path) :=
  fun name listed => (normal_parts_among _ name listed).2

theorem normal_names_slash_free (path : String) : ∀ name ∈ normalNames path, SlashFree name :=
  fun name listed => slash_free_part (normal_parts_among _ name listed).1

theorem normal_parts_named (parts : List String) :
    normalParts true (parts.filter (· != "")) = normalParts true parts := by
  have skips : (fun (done : List String) part =>
      if (part != "") = true then pushPart true done part else done) = pushPart true := by
    funext done part
    by_cases empty : part = ""
    · rw [empty]
      rfl
    · simp [empty]
  rw [normalParts, normalParts, List.foldl_filter, skips]

section Absolute

variable {path : String} (absolute : startsWith path "/" = true)
include absolute

theorem leading_slashes_absolute : leadingSlashes path = 1 ∨ leadingSlashes path = 2 := by
  rw [starts_with_slash] at absolute
  unfold leadingSlashes
  split
  · exact .inl rfl
  · exact .inr rfl
  · exact .inl rfl
  · rename_i one two three
    obtain ⟨rest, spelled⟩ := List.head?_eq_some_iff.mp (eq_of_beq absolute)
    exact absurd spelled (three rest)

theorem normalize_absolute :
    normalize path = String.ofList (List.replicate (leadingSlashes path) '/') ++
      join "/" (normalNames path) := by
  have some := leading_slashes_absolute absolute
  have rooted : (leadingSlashes path != 0) = true := by
    rcases some with one | two
    · rw [one]; rfl
    · rw [two]; rfl
  have written : (String.ofList (List.replicate (leadingSlashes path) '/') ++
      join "/" (normalNames path)).isEmpty = false := by
    rw [Bool.eq_false_iff, ne_eq, String.isEmpty_iff, ← String.toList_eq_nil_iff]
    rcases some with one | two
    · simp [one]
    · simp [two]
  unfold normalize
  dsimp only
  rw [rooted, ← normalNames, written]
  rfl

theorem named_parts_normalized : (split '/' (normalize path)).filter (· != "") = normalNames path := by
  have kept : (split '/' (join "/" (normalNames path))).filter (· != "") = normalNames path := by
    by_cases top : normalNames path = []
    · rw [top]
      rfl
    · rw [split_join top (normal_names_slash_free path), List.filter_eq_self]
      intro name listed
      simpa using (normal_names_plain path name listed).named
  rw [normalize_absolute absolute, split_behind_slashes, List.filter_append, kept]
  simp

theorem leading_slashes_normalized : leadingSlashes (normalize path) = leadingSlashes path := by
  have behind : (join "/" (normalNames path)).toList.takeWhile (· == '/') = [] := by
    have free := normal_names_slash_free path
    have plain := normal_names_plain path
    cases named : normalNames path with
    | nil => rfl
    | cons first rest =>
        rw [named] at free plain
        obtain ⟨c, letters, spelled⟩ := List.exists_cons_of_ne_nil
          (mt String.toList_eq_nil_iff.mp (plain first List.mem_cons_self).named)
        have other : c ≠ '/' := by
          rintro rfl
          exact free first List.mem_cons_self (spelled ▸ List.mem_cons_self)
        cases rest <;> simp [join, spelled, other]
  have slashes : ∀ c ∈ List.replicate (leadingSlashes path) '/', (c == '/') = true := by
    intro c listed
    rw [List.eq_of_mem_replicate listed]
    rfl
  rw [normalize_absolute absolute, leading_slashes_counted, String.toList_append,
    String.toList_ofList, List.takeWhile_append_of_pos slashes, behind, List.append_nil]
  rcases leading_slashes_absolute absolute with one | two
  · rw [one]; rfl
  · rw [two]; rfl

theorem absolute_normalized : startsWith (normalize path) "/" = true := by
  rw [starts_with_slash, normalize_absolute absolute]
  rcases leading_slashes_absolute absolute with one | two
  · simp [one]
  · simp [two]

/-- A normal form is its own normal form. -/
theorem normalize_normalize : normalize (normalize path) = normalize path := by
  have same : normalNames (normalize path) = normalNames path := by
    rw [normalNames, ← normal_parts_named, named_parts_normalized absolute,
      normal_parts_plain (normal_names_plain path)]
  rw [normalize_absolute (absolute_normalized absolute), leading_slashes_normalized absolute, same,
    ← normalize_absolute absolute]

/-- A path that differs from its normal form in case alone is in normal form. -/
theorem normal_of_upper (alike : upper path = upper (normalize path)) : normalize path = path := by
  have slash : ('/').toNat ∈ cuttingCodes := by decide
  have parts : (split '/' path).map upper = (split '/' (normalize path)).map upper := by
    rw [← split_upper slash, alike, split_upper slash]
  have plain : PlainPlace ((split '/' path).filter (· != "")) := by
    intro part listed
    obtain ⟨cutOut, named⟩ := List.mem_filter.mp listed
    obtain ⟨other, there, same⟩ := List.mem_map.mp (parts ▸ List.mem_map_of_mem cutOut)
    have otherNamed : other ≠ "" := by
      rw [ne_eq, ← upper_eq_empty, same, upper_eq_empty]
      simpa using named
    have kept : other ∈ (split '/' (normalize path)).filter (· != "") :=
      List.mem_filter.mpr ⟨there, by simpa using otherNamed⟩
    rw [named_parts_normalized absolute] at kept
    rw [← plain_upper_iff, ← same]
    exact plain_upper_iff.mpr (normal_names_plain path other kept)
  have kept : (split '/' path).filter (· != "") =
      (split '/' (normalize path)).filter (· != "") := by
    rw [named_parts_normalized absolute, normalNames, ← normal_parts_named, normal_parts_plain plain]
  rw [← join_split path, parts_alike parts kept, join_split, normalize_normalize absolute]

end Absolute

end SlashPath

/-! Targets of stream files. -/

/-- The path that a target is written as, without the blanks and the quotes around it. -/
def writtenPath (target : String) : String := unquote (trim target)

def namedFile (home path : String) : String := normalize (joinTexts home path)

/-- The path that a target is known by, before it is put in upper case. -/
def knownPath (home path : String) : String :=
  if startsWith path "/" then path else namedFile home path

/-- The path is relative, or it is in normal form. -/
def Tidy (path : String) : Prop := startsWith path "/" = true → normalize path = path

section Known

variable {home path : String}

theorem named_absolute (absolute : startsWith path "/" = true) : namedFile home path = normalize path := by
  rw [namedFile, joinTexts, if_pos absolute]

theorem known_of_tidy (tidy : Tidy path) : knownPath home path = namedFile home path := by
  unfold knownPath
  split
  · rename_i absolute
    rw [named_absolute absolute, tidy absolute]
  · rfl

theorem tidy_of_known (alike : upper (knownPath home path) = upper (namedFile home path)) :
    Tidy path := by
  intro absolute
  rw [knownPath, if_pos absolute, named_absolute absolute] at alike
  exact normal_of_upper absolute alike

theorem tidy_of_relative (relative : ¬ startsWith path "/" = true) : Tidy path :=
  fun absolute => absurd absolute relative

theorem known_alike_iff {one other : String} (same : namedFile home one = namedFile home other) :
    upper (knownPath home one) = upper (knownPath home other) ↔
      Tidy one ∧ Tidy other ∨ upper one = upper other := by
  constructor
  · intro alike
    by_cases absolute : startsWith one "/" = true
    · by_cases otherAbsolute : startsWith other "/" = true
      · rw [knownPath, if_pos absolute, knownPath, if_pos otherAbsolute] at alike
        exact .inr alike
      · have tidy := tidy_of_relative otherAbsolute
        rw [known_of_tidy tidy, ← same] at alike
        exact .inl ⟨tidy_of_known alike, tidy⟩
    · have tidy := tidy_of_relative absolute
      rw [known_of_tidy tidy, same] at alike
      exact .inl ⟨tidy, tidy_of_known alike.symm⟩
  · rintro (⟨tidy, otherTidy⟩ | alike)
    · rw [known_of_tidy tidy, known_of_tidy otherTidy, same]
    · have starts : startsWith one "/" = startsWith other "/" := by
        rw [← starts_with_slash_upper one, alike, starts_with_slash_upper]
      rw [knownPath, knownPath, starts]
      split
      · exact alike
      · rw [same]

variable (rooted : startsWith home "/" = true)
include rooted

theorem joined_absolute (path : String) : startsWith (joinTexts home path) "/" = true := by
  rw [starts_with_slash] at rooted ⊢
  unfold joinTexts
  split
  · rename_i absolute
    rwa [starts_with_slash] at absolute
  · obtain ⟨rest, spelled⟩ := List.head?_eq_some_iff.mp (eq_of_beq rooted)
    split <;> simp [String.toList_append, spelled]

/-- What a target is known by has the file that it names as its normal form. -/
theorem normalize_known (path : String) :
    normalize (upper (knownPath home path)) = upper (namedFile home path) := by
  rw [normalize_upper]
  unfold knownPath
  split
  · rename_i absolute
    rw [named_absolute absolute]
  · rw [namedFile, normalize_normalize (joined_absolute rooted path)]

theorem resolve_written {document : Document}
    (stream : document.scheme = Addressing.streamFile.name) {target : String}
    (given : writtenPath target ≠ "") :
    resolve home document target =
      .ok ⟨upper (knownPath home (writtenPath target)), .streamFile, none⟩ := by
  have homeGiven : home.isEmpty = false := by
    rw [Bool.eq_false_iff, ne_eq, String.isEmpty_iff]
    rintro rfl
    cases rooted
  have written : (unquote (trim target)).isEmpty = false := by
    rw [Bool.eq_false_iff, ne_eq, String.isEmpty_iff]
    exact given
  have trimmed : (trim target).isEmpty = false := by
    rw [Bool.eq_false_iff, ne_eq, String.isEmpty_iff]
    intro empty
    rw [writtenPath, empty] at given
    exact given rfl
  have scheme : Addressing.ofName? document.scheme = some .streamFile := by
    rw [stream]
    rfl
  simp only [resolve, resolveStream, trimmed, written, homeGiven, scheme]
  rfl

end Known

/-- Targets that name the same file are known by paths whose normal form is that file. The paths are
the same exactly if each target is relative or in normal form, or if the two are written alike but for
case. -/
theorem same_file_same_path_iff {home : String} (rooted : startsWith home "/" = true)
    {document : Document} (stream : document.scheme = Addressing.streamFile.name)
    {one other : String} (given : writtenPath one ≠ "") (otherGiven : writtenPath other ≠ "")
    (same : namedFile home (writtenPath one) = namedFile home (writtenPath other)) :
    ∃ first second, resolve home document one = .ok ⟨first, .streamFile, none⟩ ∧
      resolve home document other = .ok ⟨second, .streamFile, none⟩ ∧
      normalize first = upper (namedFile home (writtenPath one)) ∧
      normalize second = normalize first ∧
      (first = second ↔ Tidy (writtenPath one) ∧ Tidy (writtenPath other) ∨
        upper (writtenPath one) = upper (writtenPath other)) := by
  refine ⟨_, _, resolve_written rooted stream given, resolve_written rooted stream otherGiven,
    normalize_known rooted _, ?_, known_alike_iff same⟩
  rw [normalize_known rooted, normalize_known rooted, same]

theorem climbing_target_same_path :
    let document : Document := ⟨"streamfile", "/home/dev/src/pgm.rpgle"⟩
    let home := "/home//dev/"
    let one := " '../shared/./Dates' "
    let other := "/home/shared/Dates"
    document.scheme = Addressing.streamFile.name ∧ startsWith home "/" = true ∧
      writtenPath one ≠ "" ∧ writtenPath other ≠ "" ∧
      namedFile home (writtenPath one) = namedFile home (writtenPath other) ∧
      ∃ first second, resolve home document one = .ok ⟨first, .streamFile, none⟩ ∧
        resolve home document other = .ok ⟨second, .streamFile, none⟩ ∧
        normalize first = upper (namedFile home (writtenPath one)) ∧
        normalize second = normalize first ∧ first = second := by
  intro document home one other
  have rooted : startsWith home "/" = true := by decide +kernel
  have stream : document.scheme = Addressing.streamFile.name := by decide +kernel
  have given : writtenPath one ≠ "" := by decide +kernel
  have otherGiven : writtenPath other ≠ "" := by decide +kernel
  have same : namedFile home (writtenPath one) = namedFile home (writtenPath other) := by
    decide +kernel
  obtain ⟨first, second, resolves, otherResolves, normal, otherNormal, alike⟩ :=
    same_file_same_path_iff rooted stream given otherGiven same
  have tidy : Tidy (writtenPath one) ∧ Tidy (writtenPath other) := by
    unfold Tidy
    decide +kernel
  exact ⟨stream, rooted, given, otherGiven, same, first, second, resolves, otherResolves, normal,
    otherNormal, alike.mpr (.inl tidy)⟩

/-- A slash that is written twice makes one file two: it is known by two paths, and so it is fetched
twice, held twice and entered twice among the files of a document that includes it both ways. -/
theorem doubled_slash_known_twice :
    let document : Document := ⟨"streamfile", "/PGM"⟩
    let source : ContentSource := ⟨fun _ => .ok "dcl-c K 1;"⟩
    let found := discover source {} document ["/copy /inc//k", "/copy /inc/k"]
    namedFile "/" (writtenPath "/inc//k") = namedFile "/" (writtenPath "/inc/k") ∧
      resolve "/" document "/inc//k" = .ok ⟨"/INC//K", .streamFile, none⟩ ∧
      resolve "/" document "/inc/k" = .ok ⟨"/INC/K", .streamFile, none⟩ ∧
      found.files.map Prod.fst = ["/PGM", "/INC/K", "/INC//K"] ∧
      found.cache.files.map Prod.fst = ["/INC/K", "/INC//K"] ∧
      Event.requests found.events = [.stream "/INC/K", .stream "/INC//K"] := by
  decide +kernel

end RpgSymbols
