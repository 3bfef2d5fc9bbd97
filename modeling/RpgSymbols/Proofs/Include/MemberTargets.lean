import RpgSymbols.Proofs.Include.CanonicalPath
import RpgSymbols.Proofs.Text.CaseCutting
import RpgSymbols.Proofs.Text.Trimming

/-!
Targets that name members. A member's path is read back as the parts it is made of, and a target as
the parts it was written from. So a member has one canonical path, in whatever case it is named and
from whichever document of its storage group, and it is the path that the member itself is known by.
-/

namespace RpgSymbols

open Text SlashPath

namespace Text

theorem split_pair {separator : Char} {first second : String}
    (left : separator ∉ first.toList) (right : separator ∉ second.toList) :
    split separator (first ++ String.singleton separator ++ second) = [first, second] := by
  rw [split_first left, split_alone right]

theorem last_part_behind (front : String) {name : String} (free : SlashFree name) :
    lastPart (front ++ "/" ++ name) = name := by
  have letters : (front ++ "/" ++ name).toList = front.toList ++ '/' :: name.toList :=
    letters_around front '/' name
  have whole : ∀ c ∈ name.toList.reverse, (c != '/') = true :=
    fun c listed => kept_of_absent free c (List.mem_reverse.mp listed)
  rw [lastPart, letters, List.reverse_append, List.reverse_cons, List.append_assoc,
    List.takeWhile_append_of_pos whole, List.singleton_append,
    List.takeWhile_cons_of_neg (by decide), List.append_nil, List.reverse_reverse,
    String.ofList_toList]

end Text

def isSeparator (c : Char) : Bool := c == '/' || c == ',' || isBlank c

structure Segment (text : String) : Prop where
  some : text ≠ ""
  clear : ∀ c ∈ text.toList, isSeparator c = false

namespace Segment

instance (text : String) : Decidable (Segment text) :=
  letI : Decidable (∀ c ∈ text.toList, isSeparator c = false) := List.decidableBAll _ _
  decidable_of_iff (text ≠ "" ∧ ∀ c ∈ text.toList, isSeparator c = false)
    ⟨fun ⟨some, clear⟩ => ⟨some, clear⟩, fun segment => ⟨segment.some, segment.clear⟩⟩

variable {text : String}

theorem slash (segment : Segment text) : SlashFree text := by
  intro member
  cases segment.clear '/' member

theorem comma (segment : Segment text) : ',' ∉ text.toList := by
  intro member
  cases segment.clear ',' member

theorem blank (segment : Segment text) : ∀ c ∈ text.toList, isBlank c = false := by
  intro c member
  exact (Bool.or_eq_false_iff.mp (segment.clear c member)).2

theorem upper_iff : Segment (upper text) ↔ Segment text := by
  have keeps : KeepsCuts isSeparator upperChar := by
    apply upper_keeps_cuts
    intro c separates
    simp only [isSeparator, Bool.or_eq_true, beq_iff_eq] at separates
    rcases separates with (rfl | rfl) | blank
    · decide
    · decide
    · exact cutting_code_of_blank blank
  have clear := cut_in_image_iff keeps text.toList
  rw [← to_list_upper, Bool.eq_iff_iff, List.any_eq_true, List.any_eq_true] at clear
  have separated : ∀ text : String, (∀ c ∈ text.toList, isSeparator c = false) ↔
      ¬∃ c ∈ text.toList, isSeparator c = true := by
    intro text
    simp
  constructor
  · intro segment
    refine ⟨mt upper_eq_empty.mpr segment.some, ?_⟩
    rw [separated, ← clear, ← separated]
    exact segment.clear
  · intro segment
    refine ⟨mt upper_eq_empty.mp segment.some, ?_⟩
    rw [separated, clear, ← separated]
    exact segment.clear

end Segment

namespace MemberAddress

def canonical (address : MemberAddress) : String := upper ("/" ++ join "/" address.parts)

def resolved (address : MemberAddress) : Resolved :=
  ⟨address.canonical, .member, some address.inUpperCase⟩

/-- The case of an address plays no part in what it resolves to. -/
theorem resolved_alike {first second : MemberAddress}
    (same : first.inUpperCase = second.inUpperCase) : first.resolved = second.resolved := by
  have parts := congrArg MemberAddress.parts same
  rw [parts_in_upper_case, parts_in_upper_case] at parts
  rw [resolved, resolved, canonical, canonical, same, upper_append, upper_append, upper_join,
    upper_join, parts]

/-- The address that includes use: that of a member whose extension is left out. -/
def included (address : MemberAddress) : MemberAddress :=
  { address with member := withoutExtension address.member }

end MemberAddress

/-- The document is a member, and its path is made of the parts of the address. -/
structure Document.IsMember (document : Document) (address : MemberAddress) : Prop where
  scheme : document.scheme = Addressing.member.name
  path : document.path = "/" ++ join "/" address.parts
  parts : ∀ part ∈ address.parts, part ≠ "" ∧ SlashFree part

/-- A target as it is written for a member, `[LIBRARY/][FILE,]NAME`. -/
structure MemberTarget where
  library : Option String
  file : Option String
  name : String

namespace MemberTarget

def fileAndName (target : MemberTarget) : String :=
  match target.file with
  | none => target.name
  | some file => file ++ "," ++ target.name

def text (target : MemberTarget) : String :=
  match target.library with
  | none => target.fileAndName
  | some library => library ++ "/" ++ target.fileAndName

structure Clear (target : MemberTarget) : Prop where
  library : ∀ library ∈ target.library, Segment library
  file : ∀ file ∈ target.file, Segment file
  name : Segment target.name

/-- The member that a target names in a document of the given path. -/
def addressFrom (target : MemberTarget) (path : String) : MemberAddress :=
  ⟨(inherited path).1.filter fun name => !name.isEmpty,
    (target.library.or (inherited path).2.1).getD "", target.file.getD (inherited path).2.2,
    withoutExtension target.name⟩

section Clear

variable {target : MemberTarget} (clear : target.Clear)
include clear

theorem slash_free_file_and_name : SlashFree target.fileAndName := by
  have name := clear.name.slash
  unfold fileAndName
  cases written : target.file with
  | none => exact name
  | some file =>
      have before := (clear.file file written).slash
      intro member
      simp only [String.toList_append, List.mem_append] at member
      rcases member with (inFile | comma) | inName
      · exact before inFile
      · exact absurd comma (by decide)
      · exact name inName

theorem split_file_and_name :
    split ',' target.fileAndName = target.file.toList ++ [target.name] := by
  unfold fileAndName
  cases written : target.file with
  | none => exact split_alone clear.name.comma
  | some file => exact split_pair (clear.file file written).comma clear.name.comma

theorem split_text :
    split '/' target.text = target.library.toList ++ [target.fileAndName] := by
  unfold text
  cases written : target.library with
  | none => exact split_alone (slash_free_file_and_name clear)
  | some library =>
      exact split_pair (clear.library library written).slash (slash_free_file_and_name clear)

theorem blank_free_text : ∀ c ∈ target.text.toList, isBlank c = false := by
  have behind : ∀ c ∈ target.fileAndName.toList, isBlank c = false := by
    unfold fileAndName
    cases written : target.file with
    | none => exact clear.name.blank
    | some file =>
        intro c member
        simp only [String.toList_append, List.mem_append] at member
        rcases member with (inFile | comma) | inName
        · exact (clear.file file written).blank c inFile
        · rw [List.mem_singleton.mp comma]
          decide
        · exact clear.name.blank c inName
  unfold text
  cases written : target.library with
  | none => exact behind
  | some library =>
      intro c member
      simp only [String.toList_append, List.mem_append] at member
      rcases member with (inLibrary | slash) | inRest
      · exact (clear.library library written).blank c inLibrary
      · rw [List.mem_singleton.mp slash]
        decide
      · exact behind c inRest

theorem text_ne_empty : target.text ≠ "" := by
  have named : target.fileAndName ≠ "" := by
    unfold fileAndName
    cases target.file with
    | none => exact clear.name.some
    | some file => simp
  unfold text
  cases target.library with
  | none => exact named
  | some library => simp

/-- A target is read back as the parts it was written from. -/
theorem spelled_of_text (path : String) : spelledMember path target.text = target.addressFrom path := by
  unfold spelledMember addressFrom
  rw [split_text clear]
  cases target.library with
  | none =>
      simp only [Option.toList_none, List.nil_append, lastOrEmpty, List.getLast?_singleton,
        Option.getD_some, split_file_and_name clear]
      cases target.file <;> rfl
  | some library =>
      simp only [Option.toList_some, List.singleton_append, lastOrEmpty, List.getLast?_cons_cons,
        List.getLast?_singleton, Option.getD_some, split_file_and_name clear]
      cases target.file <;> rfl

/-- Whatever the document lends, a target is resolved to the address that it spells there, if that
is complete. -/
theorem resolve_address (home : String) {document : Document}
    (scheme : document.scheme = Addressing.member.name) :
    resolve home document target.text =
      let address := target.addressFrom document.path
      if address.library.isEmpty || address.file.isEmpty || address.member.isEmpty then
        .error (.incompleteMember target.text document.path)
      else .ok address.resolved := by
  have addressing : Addressing.ofName? document.scheme = some .member := by
    rw [scheme]
    decide
  have written : target.text.isEmpty = false := by
    rw [Bool.eq_false_iff, ne_eq, String.isEmpty_iff]
    exact text_ne_empty clear
  rw [resolve, trim_of_clear (blank_free_text clear), written, if_neg Bool.false_ne_true, addressing]
  dsimp only
  rw [resolve_member_spelled, spelled_of_text clear]
  rfl

end Clear

end MemberTarget

namespace Document.IsMember

variable {document : Document} {address : MemberAddress} (member : document.IsMember address)
include member

theorem group_named : ∀ group ∈ address.group, group ≠ "" :=
  fun group chosen => (member.parts group
    (List.mem_append_left _ (Option.mem_toList.mpr chosen))).1

theorem library_named : address.library ≠ "" :=
  (member.parts _ (List.mem_append_right _ List.mem_cons_self)).1

theorem file_named : address.file ≠ "" :=
  (member.parts _ (List.mem_append_right _ (List.mem_cons_of_mem _ List.mem_cons_self))).1

/-- A member lends the parts of its own path. -/
theorem inherited_path :
    inherited document.path = (address.group, some address.library, address.file) := by
  have free : ∀ part ∈ "" :: address.parts, SlashFree part := by
    intro part listed
    rcases List.mem_cons.mp listed with rfl | behind
    · decide
    · exact (member.parts part behind).2
  have some : address.parts ≠ [] :=
    List.append_ne_nil_of_right_ne_nil _ (List.cons_ne_nil _ _)
  rw [inherited, member.path, ← join_empty_cons some, split_join (List.cons_ne_nil _ _) free,
    MemberAddress.parts]
  cases address.group <;> rfl

theorem last_part : lastPart document.path = address.member := by
  have front : document.path =
      "/" ++ join "/" (address.group.toList ++ [address.library, address.file]) ++ "/" ++
        address.member := by
    have some : address.group.toList ++ [address.library, address.file] ≠ [] :=
      List.append_ne_nil_of_right_ne_nil _ (List.cons_ne_nil _ _)
    have joined := join_concat "/" some address.member
    rw [List.append_assoc] at joined
    rw [member.path, MemberAddress.parts]
    simp only [String.append_assoc] at joined ⊢
    exact congrArg ("/" ++ ·) joined
  have last : address.member ∈ address.parts :=
    List.mem_append_right _ (List.mem_cons_of_mem _ (List.mem_cons_of_mem _ List.mem_cons_self))
  rw [front]
  exact last_part_behind _ (member.parts _ last).2

theorem address_of_target (target : MemberTarget) :
    target.addressFrom document.path =
      ⟨address.group, target.library.getD address.library, target.file.getD address.file,
        withoutExtension target.name⟩ := by
  have kept : (address.group.filter fun name => !name.isEmpty) = address.group := by
    cases chosen : address.group with
    | none => rfl
    | some group => simpa using member.group_named group chosen
  rw [MemberTarget.addressFrom, member.inherited_path]
  dsimp only
  rw [kept]
  cases target.library <;> rfl

/-- A target that is written in a member names the member that it says, and the document lends what
it leaves out. -/
theorem resolve_text (home : String) {target : MemberTarget} (clear : target.Clear) :
    resolve home document target.text =
      if withoutExtension target.name = "" then
        .error (.incompleteMember target.text document.path)
      else .ok (target.addressFrom document.path).resolved := by
  have library : (target.library.getD address.library).isEmpty = false := by
    cases chosen : target.library with
    | none => simpa using member.library_named
    | some library => simpa using (clear.library library chosen).some
  have file : (target.file.getD address.file).isEmpty = false := by
    cases chosen : target.file with
    | none => simpa using member.file_named
    | some file => simpa using (clear.file file chosen).some
  rw [MemberTarget.resolve_address clear home member.scheme, member.address_of_target]
  dsimp only
  rw [library, file, Bool.false_or, Bool.false_or]
  simp only [String.isEmpty_iff]

theorem canonical_path (home : String) (clear : Segment address.member) :
    canonicalPath home document =
      if withoutExtension address.member = "" then
        .error (.incompleteMember address.member document.path)
      else .ok address.included.canonical := by
  have alone : MemberTarget.Clear ⟨none, none, address.member⟩ := ⟨by simp, by simp, clear⟩
  have resolves := member.resolve_text home alone
  rw [MemberTarget.text, MemberTarget.fileAndName, member.address_of_target] at resolves
  rw [canonicalPath, if_pos member.scheme, member.last_part, resolves]
  split
  · rfl
  · rfl

end Document.IsMember

/-- The target names library, file and member of the address, in any case. -/
def MemberAddress.NamedBy (address : MemberAddress) (target : String) : Prop :=
  ∃ library file name, target = library ++ "/" ++ file ++ "," ++ name ∧
    upper library = upper address.library ∧ upper file = upper address.file ∧
      upper name = upper address.member

/-- Every member of its storage group resolves such a target to the path that the member is known
by. -/
theorem resolve_named {including : Document} {address own : MemberAddress}
    (includes : including.IsMember own) (clear : ∀ part ∈ address.parts, Segment part)
    (group : own.group.map upper = address.group.map upper)
    (named : withoutExtension address.member ≠ "") {target : String} (names : address.NamedBy target)
    (home : String) : resolve home including target = .ok address.included.resolved := by
  obtain ⟨library, file, name, rfl, sameLibrary, sameFile, sameName⟩ := names
  have alike : ∀ {first second : String}, upper first = upper second → second ∈ address.parts →
      Segment first := by
    intro first second same listed
    exact Segment.upper_iff.mp (same ▸ Segment.upper_iff.mpr (clear second listed))
  have written : MemberTarget.Clear ⟨some library, some file, name⟩ := by
    refine ⟨?_, ?_, alike sameName (by simp [MemberAddress.parts])⟩
    · intro written chosen
      cases chosen
      exact alike sameLibrary (by simp [MemberAddress.parts])
    · intro written chosen
      cases chosen
      exact alike sameFile (by simp [MemberAddress.parts])
  have sameShort : upper (withoutExtension name) = upper (withoutExtension address.member) := by
    rw [← without_extension_upper, sameName, without_extension_upper]
  have short : withoutExtension name ≠ "" := by
    rw [ne_eq, ← upper_eq_empty, sameShort, upper_eq_empty]
    exact named
  have resolves := includes.resolve_text home written
  rw [includes.address_of_target, if_neg short] at resolves
  have text : MemberTarget.text ⟨some library, some file, name⟩ =
      library ++ "/" ++ file ++ "," ++ name := by
    simp only [MemberTarget.text, MemberTarget.fileAndName, String.append_assoc]
  rw [← text, resolves]
  apply congrArg
  apply MemberAddress.resolved_alike
  simp only [MemberAddress.inUpperCase, MemberAddress.included, Option.getD_some, group,
    sameLibrary, sameFile, sameShort]

end RpgSymbols
