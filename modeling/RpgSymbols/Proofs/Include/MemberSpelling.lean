import RpgSymbols.Proofs.Include.MemberTargets

/-!
How members are spelled. A target may write library, source file and extension or leave them out,
and it is read as it is written: the extension counts for nothing, and what is left out is lent by
the document. A document whose own path is not that of a member lends no library, so a target that
writes none has no address there.
-/

namespace RpgSymbols

open Text

namespace Text

theorem without_extension_undotted {text : String} (undotted : '.' ∉ text.toList) :
    withoutExtension text = text := by
  rw [withoutExtension]
  exact if_neg (mt List.contains_iff_mem.mp undotted)

/-- Only what stands behind the last dot is an extension. -/
theorem without_extension_behind (name : String) {extension : String}
    (undotted : '.' ∉ extension.toList) : withoutExtension (name ++ "." ++ extension) = name := by
  have letters : (name ++ "." ++ extension).toList = name.toList ++ '.' :: extension.toList :=
    letters_around name '.' extension
  have dotted : (name ++ "." ++ extension).toList.contains '.' = true := by
    rw [letters]
    simp
  have behind : ∀ c ∈ extension.toList.reverse, (c != '.') = true :=
    fun c listed => kept_of_absent undotted c (List.mem_reverse.mp listed)
  rw [withoutExtension, if_pos dotted, letters, List.reverse_append, List.reverse_cons, List.append_assoc,
    List.dropWhile_append_of_pos behind, List.singleton_append,
    List.dropWhile_cons_of_neg (by decide), List.drop_one, List.tail_cons, List.reverse_reverse,
    String.ofList_toList]

end Text

/-- A member as a target writes it: `[LIBRARY/][FILE,]MEMBER[.EXTENSION]`. -/
structure WrittenMember where
  library : Option String
  file : Option String
  member : String
  extension : Option String
  deriving DecidableEq, Repr

namespace WrittenMember

def name (written : WrittenMember) : String :=
  match written.extension with
  | none => written.member
  | some extension => written.member ++ "." ++ extension

def text (written : WrittenMember) : String :=
  written.library.elim "" (· ++ "/") ++ written.file.elim "" (· ++ ",") ++ written.name

structure Legible (written : WrittenMember) : Prop where
  library : ∀ library ∈ written.library, Segment library
  file : ∀ file ∈ written.file, Segment file
  member : Segment written.member
  extension : ∀ extension ∈ written.extension, Segment extension ∧ '.' ∉ extension.toList
  undotted : written.extension = none → '.' ∉ written.member.toList

def target (written : WrittenMember) : MemberTarget :=
  ⟨written.library, written.file, written.name⟩

theorem text_of_target (written : WrittenMember) : written.target.text = written.text := by
  unfold MemberTarget.text MemberTarget.fileAndName target text
  cases written.library <;> cases written.file <;> simp [String.append_assoc]

section Legible

variable {written : WrittenMember} (legible : written.Legible)
include legible

theorem without_extension_name : withoutExtension written.name = written.member := by
  unfold name
  cases extended : written.extension with
  | none => exact without_extension_undotted (legible.undotted extended)
  | some extension =>
      exact without_extension_behind written.member (legible.extension extension extended).2

theorem segment_name : Segment written.name := by
  unfold name
  cases extended : written.extension with
  | none => exact legible.member
  | some extension =>
      have behind := (legible.extension extension extended).1
      refine ⟨by simp, ?_⟩
      intro c listed
      simp only [String.toList_append, List.mem_append] at listed
      rcases listed with (inMember | dot) | inExtension
      · exact legible.member.clear c inMember
      · rw [List.mem_singleton.mp dot]
        decide
      · exact behind.clear c inExtension

theorem clear_target : written.target.Clear :=
  ⟨legible.library, legible.file, segment_name legible⟩

end Legible

end WrittenMember

/-- The member with this address is known by the parts that it has. -/
def Resolved.ofMember (address : MemberAddress) : Resolved :=
  ⟨"/" ++ join "/" address.parts, .member, some address⟩

theorem MemberAddress.resolved_of_member (address : MemberAddress) :
    address.resolved = Resolved.ofMember address.inUpperCase := by
  rw [resolved, canonical, upper_append, upper_slash, upper_join, ← parts_in_upper_case]
  rfl

theorem inherited_elsewhere {path : String} (three : (split '/' path).length ≠ 4)
    (four : (split '/' path).length ≠ 5) : inherited path = (none, none, defaultSourceFile) := by
  unfold inherited
  split
  · rename_i parts
    rw [parts] at three
    exact absurd rfl three
  · rename_i parts
    rw [parts] at four
    exact absurd rfl four
  · rfl

/-- A legible target names the member that it says, in upper case. In the source of a member it
takes the storage group from there, and the library and the source file if it writes none; in any
other document of that scheme it has to write the library, and there is no storage group. -/
theorem resolve_written_member (home : String) {document : Document} {written : WrittenMember}
    (scheme : document.scheme = Addressing.member.name) (legible : written.Legible) :
    (∀ own : MemberAddress, document.IsMember own →
      resolve home document written.text = .ok (.ofMember
        ⟨own.group.map upper, upper (written.library.getD own.library),
          upper (written.file.getD own.file), upper written.member⟩)) ∧
    ((split '/' document.path).length ≠ 4 → (split '/' document.path).length ≠ 5 →
      resolve home document written.text =
        match written.library with
        | none => .error (.incompleteMember written.text document.path)
        | some library => .ok (.ofMember
            ⟨none, upper library, upper (written.file.getD "QRPGLEREF"), upper written.member⟩)) := by
  have short : withoutExtension written.target.name = written.member :=
    WrittenMember.without_extension_name legible
  have clear := WrittenMember.clear_target legible
  constructor
  · intro own member
    have resolves := member.resolve_text home clear
    rw [short, if_neg legible.member.some, member.address_of_target, short,
      MemberAddress.resolved_of_member, WrittenMember.text_of_target] at resolves
    exact resolves
  · intro three four
    have default : upper defaultSourceFile = defaultSourceFile := by decide +kernel
    have file : (written.file.getD defaultSourceFile).isEmpty = false := by
      cases chosen : written.file with
      | none => decide
      | some file => simpa using (legible.file file chosen).some
    have member : written.member.isEmpty = false := by
      simpa using legible.member.some
    have resolves := MemberTarget.resolve_address clear home scheme
    rw [MemberTarget.addressFrom, inherited_elsewhere three four, short,
      WrittenMember.text_of_target] at resolves
    rw [resolves]
    dsimp only [WrittenMember.target]
    rw [file, member, Bool.or_false, Bool.or_false, Option.or_none]
    cases chosen : written.library with
    | none => rfl
    | some library =>
        have named : library.isEmpty = false := by
          simpa using (legible.library library chosen).some
        rw [Option.getD_some, named, if_neg Bool.false_ne_true, MemberAddress.resolved_of_member]
        rfl

theorem extended_target_resolved :
    let written : WrittenMember := ⟨some "Lib", none, "util.v1", some "rpgle"⟩
    let document : Document := ⟨"member", "/asp/prod/src/main.rpgle"⟩
    let elsewhere : Document := ⟨"member", "/main.rpgle"⟩
    written.text = "Lib/util.v1.rpgle" ∧
      resolve "/" document "Lib/util.v1.rpgle" =
        .ok (.ofMember ⟨some "ASP", "LIB", "SRC", "UTIL.V1"⟩) ∧
      resolve "/" elsewhere "Lib/util.v1.rpgle" =
        .ok (.ofMember ⟨none, "LIB", "QRPGLEREF", "UTIL.V1"⟩) := by
  intro written document elsewhere
  have legible : written.Legible :=
    ⟨by decide +kernel, by decide +kernel, by decide +kernel, by decide +kernel,
      by decide +kernel⟩
  have member : document.IsMember ⟨some "asp", "prod", "src", "main.rpgle"⟩ :=
    ⟨by decide +kernel, by decide +kernel, by decide +kernel⟩
  have spelled : written.text = "Lib/util.v1.rpgle" := by decide +kernel
  have scheme : elsewhere.scheme = Addressing.member.name := rfl
  have own := (resolve_written_member "/" member.scheme legible).1 _ member
  have other := (resolve_written_member "/" scheme legible).2
    (by decide +kernel) (by decide +kernel)
  rw [spelled] at own other
  refine ⟨spelled, own.trans ?_, other.trans ?_⟩
  · apply congrArg Except.ok
    decide +kernel
  · apply congrArg Except.ok
    decide +kernel

end RpgSymbols
