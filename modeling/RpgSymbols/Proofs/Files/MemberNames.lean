import RpgSymbols.Proofs.Cache.Fetching
import RpgSymbols.Proofs.Files.Lookup
import RpgSymbols.Proofs.Include.MemberTargets

/-!
Names of members. An include takes the name of a member up to its last dot, and the file that is
served for it is the first one whose name is the member's up to its first dot. The two agree on names
with at most one dot. A file whose name has more is not found under the name it is known by, or it is
served in place of another file.
-/

namespace RpgSymbols

open Text

def memberDocument (library file name : String) : Document :=
  ⟨Addressing.member.name, memberPath none library file name⟩

/-- A name that targets can spell, with at most one dot. -/
structure SimplyNamed (name : String) : Prop where
  clear : ∀ c ∈ name.toList, c ≠ ',' ∧ isBlank c = false
  dots : before '.' name = withoutExtension name

theorem segment_of_clear {name : String} (named : name ≠ "" ∧ SlashFree name)
    (clear : ∀ c ∈ name.toList, c ≠ ',' ∧ isBlank c = false) : Segment name := by
  refine ⟨named.1, ?_⟩
  intro c member
  have slash : c ≠ '/' := by
    rintro rfl
    exact named.2 member
  obtain ⟨comma, blank⟩ := clear c member
  simp [isSeparator, slash, comma, blank]

section Documents

variable {library file name : String} (parts : ∀ part ∈ [library, file, name], part ≠ "" ∧ SlashFree part)
include parts

theorem is_member : (memberDocument library file name).IsMember ⟨none, library, file, name⟩ :=
  ⟨rfl, rfl, parts⟩

/-- A member that targets can spell is known by its name without the extension. -/
theorem canonical_path_iff (clear : ∀ c ∈ name.toList, c ≠ ',' ∧ isBlank c = false)
    (home path : String) :
    canonicalPath home (memberDocument library file name) = .ok path ↔
      withoutExtension name ≠ "" ∧
        (MemberAddress.included ⟨none, library, file, name⟩).canonical = path := by
  have named := parts name (by simp)
  rw [(is_member parts).canonical_path home (segment_of_clear named clear)]
  split
  · rename_i empty
    simp [empty]
  · rename_i short
    simp [short]

end Documents

section Found

variable {tree : FileTree} (linkless : tree.Linkless) (apart : tree.CaseApart)
  {root : List String} {top : Place} (rooted : tree.locate root = .ok top)

section Served

variable {library file name : String} {bytes : List UInt8}
  (stands : tree.entry? (top ++ [library, file, name]) = some (.file bytes))
include linkless stands

theorem path_names_of_file : ∀ part ∈ [library, file, name], part ≠ "" ∧ SlashFree part :=
  FileTree.path_names_of_entry linkless.toGrounded (Option.isSome_of_eq_some stands)

/-- If every file of the source file has at most one dot in its name, the first one that has the
member's is known by the same path. -/
theorem first_simply_named
    (simple : ∀ other content, tree.entry? (top ++ [library, file, other]) = some (.file content) →
      (readText? content).isSome = true ∧ SimplyNamed other)
    {home path : String}
    (known : canonicalPath home (memberDocument library file name) = .ok path) :
    ∃ other content, tree.firstMember? (top ++ [library, file]) (withoutExtension name) = some other ∧
      tree.entry? (top ++ [library, file, other]) = some (.file content) ∧
      (readText? content).isSome = true ∧
      canonicalPath home (memberDocument library file other) = .ok path := by
  have own := (simple name bytes stands).2
  have parts := path_names_of_file linkless stands
  obtain ⟨short, rfl⟩ := (canonical_path_iff parts own.clear home path).mp known
  have some : (tree.firstMember? (top ++ [library, file]) (withoutExtension name)).isSome = true := by
    have held : tree.entry? (top ++ [library, file] ++ [name]) = some (.file bytes) := by
      rw [List.append_assoc]
      exact stands
    rw [FileTree.firstMember?, List.find?_isSome]
    refine ⟨name, FileTree.mem_names_in_iff.mpr (by rw [held]; rfl), ?_⟩
    rw [Bool.and_eq_true, FileTree.is_file_at_iff, own.dots]
    exact ⟨⟨bytes, held⟩, by simp⟩
  obtain ⟨other, first⟩ := Option.isSome_iff_exists.mp some
  have suits := List.find?_some first
  rw [Bool.and_eq_true, FileTree.is_file_at_iff, decide_eq_true_eq] at suits
  obtain ⟨⟨content, held⟩, same⟩ := suits
  rw [List.append_assoc] at held
  obtain ⟨readable, named⟩ := simple other content held
  have otherParts := path_names_of_file linkless held
  refine ⟨other, content, first, held, readable, ?_⟩
  rw [named.dots] at same
  rw [canonical_path_iff otherParts named.clear]
  constructor
  · rw [ne_eq, ← upper_eq_empty, same, upper_eq_empty]
    exact short
  · have address : (MemberAddress.included ⟨none, library, file, other⟩).inUpperCase =
        (MemberAddress.included ⟨none, library, file, name⟩).inUpperCase := by
      simp [MemberAddress.inUpperCase, MemberAddress.included, same]
    exact congrArg Resolved.canonicalPath (MemberAddress.resolved_alike address)

include apart rooted

/-- A member is served from the first file whose name is the member's up to its first dot. -/
theorem serves_from_file_iff (member : String) {path : List String} {text : String} :
    (LocalSource.mk tree root).ServesFrom ⟨none, upper library, upper file, upper member⟩ path text ↔
      ∃ other content, tree.firstMember? (top ++ [library, file]) member = some other ∧
        tree.entry? (top ++ [library, file, other]) = some (.file content) ∧
        readText? content = some text ∧ path = root ++ [library, file, other] := by
  have parts := path_names_of_file linkless stands
  let address : MemberAddress := ⟨none, upper library, upper file, upper member⟩
  have spelled : LocalSource.PathNames
      ((address.group.filter fun name => !name.isEmpty).toList ++
        [address.library, address.file]) := by
    intro part listed
    simp only [address, Option.filter_none, Option.toList_none, List.nil_append, List.mem_cons,
      List.not_mem_nil, or_false] at listed
    rcases listed with rfl | rfl
    · obtain ⟨named, free⟩ := parts library (by simp)
      exact ⟨mt upper_eq_empty.mp named, slash_free_upper free⟩
    · obtain ⟨named, free⟩ := parts file (by simp)
      exact ⟨mt upper_eq_empty.mp named, slash_free_upper free⟩
  have inside : ∀ {directory : Place} {name : String},
      (tree.entry? (top ++ directory ++ [name])).isSome = true →
      (tree.entry? (top ++ directory)).isSome = true := by
    intro directory name held
    exact Option.isSome_of_eq_some (FileTree.directory_entry_above linkless.toGrounded held)
  have own : (tree.entry? (top ++ [library, file])).isSome = true := by
    apply @inside [library, file] name
    rw [List.append_assoc]
    exact Option.isSome_of_eq_some stands
  rw [LocalSource.serves_from_iff (linkless.below top) (apart.below top) rooted spelled]
  simp only [address, FileTree.first_member_upper]
  constructor
  · rintro ⟨directory, other, content, alike, first, held, decodes, rfl⟩
    have same : top ++ directory = top ++ [library, file] := by
      apply LocalSource.place_unique linkless apart _ (inside (Option.isSome_of_eq_some held)) own
      rw [List.map_append, List.map_append, alike]
      simp
    cases List.append_cancel_left same
    rw [List.append_assoc] at held
    exact ⟨other, content, first, held, decodes, List.append_assoc _ _ _⟩
  · rintro ⟨other, content, first, held, decodes, rfl⟩
    refine ⟨[library, file], other, content, ?_, first, ?_, decodes, ?_⟩
    · simp
    · rw [List.append_assoc]
      exact held
    · rw [List.append_assoc]
      rfl

end Served

/-- A name in a source file is served from a file that is known by the same path exactly if the first
file whose name is the member's up to its first dot can be read and is known by that path. That is so
if every file there can be read and has at most one dot in its name. -/
theorem member_found_iff (linkless : tree.Linkless) (apart : tree.CaseApart)
    (rooted : tree.locate root = .ok top) {library file name : String} {bytes : List UInt8}
    (stands : tree.entry? (top ++ [library, file, name]) = some (.file bytes))
    (clear : ∀ c ∈ name.toList, c ≠ ',' ∧ isBlank c = false) {cache : ContentCache} {path : String}
    (known : canonicalPath cache.home (memberDocument library file name) = .ok path)
    (new : cache.get? path = none) {own : String} (spelled : own ≠ "" ∧ SlashFree own) :
    let source : LocalSource := ⟨tree, root⟩
    let address := (MemberAddress.included ⟨none, library, file, name⟩).inUpperCase
    let found := ∃ other text,
      cache.fetch source.toContentSource (memberDocument library file own) name =
        ⟨some path, lines text, cache.put path (lines text), [.requested (.member address)]⟩ ∧
      source.ServesFrom address (root ++ [library, file, other]) text ∧
      canonicalPath cache.home (memberDocument library file other) = .ok path
    (found ↔ ∃ other content,
      tree.firstMember? (top ++ [library, file]) (withoutExtension name) = some other ∧
      tree.entry? (top ++ [library, file, other]) = some (.file content) ∧
      (readText? content).isSome = true ∧
      canonicalPath cache.home (memberDocument library file other) = .ok path) ∧
    ((∀ other content, tree.entry? (top ++ [library, file, other]) = some (.file content) →
      (readText? content).isSome = true ∧ SimplyNamed other) → found) := by
  intro source address found
  have parts := path_names_of_file linkless stands
  have serves : ∀ path text, source.ServesFrom address path text ↔ _ :=
    fun path text => serves_from_file_iff linkless apart rooted stands (withoutExtension name)
  obtain ⟨short, rfl⟩ := (canonical_path_iff parts clear cache.home path).mp known
  have ownParts : ∀ part ∈ [library, file, own], part ≠ "" ∧ SlashFree part := by
    intro part listed
    simp only [List.mem_cons, List.not_mem_nil, or_false] at listed
    rcases listed with rfl | rfl | rfl
    · exact parts _ (by simp)
    · exact parts _ (by simp)
    · exact spelled
  have target : MemberTarget.Clear ⟨none, none, name⟩ :=
    ⟨by simp, by simp, segment_of_clear (parts name (by simp)) clear⟩
  have resolves := (is_member ownParts).resolve_text cache.home target
  rw [if_neg short, (is_member ownParts).address_of_target] at resolves
  have onward : (∃ other content,
      tree.firstMember? (top ++ [library, file]) (withoutExtension name) = some other ∧
      tree.entry? (top ++ [library, file, other]) = some (.file content) ∧
      (readText? content).isSome = true ∧
      canonicalPath cache.home (memberDocument library file other) = .ok
        (MemberAddress.included ⟨none, library, file, name⟩).canonical) → found := by
    rintro ⟨other, content, first, held, readable, same⟩
    obtain ⟨text, decodes⟩ := Option.isSome_iff_exists.mp readable
    have answers := (serves _ text).mpr ⟨other, content, first, held, decodes, rfl⟩
    have request : source.toContentSource.serve (.member address) = .ok text :=
      LocalSource.serve_member_iff.mpr ⟨_, answers⟩
    exact ⟨other, text, ContentCache.fetch_downloaded resolves new rfl request, answers, same⟩
  refine ⟨⟨?_, onward⟩, ?_⟩
  · rintro ⟨other, text, _, answers, same⟩
    obtain ⟨found, content, first, held, decodes, path⟩ := (serves _ text).mp answers
    have ends : [library, file, other] = [library, file, found] := List.append_cancel_left path
    cases ends
    exact ⟨other, content, first, held, Option.isSome_of_eq_some decodes, same⟩
  · intro simple
    exact onward (first_simply_named linkless stands simple known)

end Found

/-- Two members whose names are the same up to the first dot, and one that has a name of its own. -/
def dottedTree : FileTree where
  entries := [
    (["LIB"], .directory),
    (["LIB", "FILE"], .directory),
    (["LIB", "FILE", "a.b.rpgle"], .file (encodeUtf8 "dcl-c A 1;")),
    (["LIB", "FILE", "a.rpgle"], .file (encodeUtf8 "dcl-c B 2;")),
    (["LIB", "FILE", "c.rpgle"], .file (encodeUtf8 "dcl-c C 3;"))]

theorem dotted_linkless : dottedTree.Linkless := by
  refine ⟨⟨⟨by decide +kernel, by decide +kernel⟩, by decide +kernel, by decide +kernel⟩,
    by decide +kernel, ?_⟩
  simp [dottedTree]

theorem dotted_apart : dottedTree.CaseApart :=
  FileTree.case_apart_of_places (by decide +kernel)

theorem dotted_first {member : String} {first : Option String}
    (found : (["a.b.rpgle", "a.rpgle", "c.rpgle"].find? fun name =>
      upper (before '.' name) = upper member) = first) :
    dottedTree.firstMember? ["LIB", "FILE"] member = first := by
  have listed : dottedTree.namesIn ["LIB", "FILE"] = ["a.b.rpgle", "a.rpgle", "c.rpgle"] := by
    have names : (dottedTree.entries.filterMap fun entry =>
        if entry.1.dropLast == ["LIB", "FILE"] then entry.1.getLast? else none) =
          ["a.b.rpgle", "a.rpgle", "c.rpgle"] := by decide +kernel
    rw [FileTree.namesIn, names]
    exact List.mergeSort_of_pairwise (by decide +kernel)
  have files : ∀ name ∈ ["a.b.rpgle", "a.rpgle", "c.rpgle"],
      dottedTree.isFileAt (["LIB", "FILE"] ++ [name]) = true := by decide +kernel
  rw [FileTree.firstMember?, listed, ← found]
  apply List.find?_congr
  intro name listed
  rw [files name listed, Bool.true_and]

theorem single_dot_found :
    let source : LocalSource := ⟨dottedTree, []⟩
    let cache : ContentCache := {}
    let address := (MemberAddress.included ⟨none, "LIB", "FILE", "c.rpgle"⟩).inUpperCase
    ∃ other text,
      cache.fetch source.toContentSource (memberDocument "LIB" "FILE" "own") "c.rpgle" =
        ⟨some "/LIB/FILE/C", lines text, cache.put "/LIB/FILE/C" (lines text),
          [.requested (.member address)]⟩ ∧
      source.ServesFrom address ["LIB", "FILE", other] text ∧
      canonicalPath cache.home (memberDocument "LIB" "FILE" other) = .ok "/LIB/FILE/C" := by
  intro source cache address
  have stands : dottedTree.entry? ([] ++ ["LIB", "FILE", "c.rpgle"]) =
      some (.file (encodeUtf8 "dcl-c C 3;")) := by decide +kernel
  have rooted : dottedTree.locate [] = .ok [] := rfl
  have segment : Segment "c.rpgle" := by decide +kernel
  have clear : ∀ c ∈ "c.rpgle".toList, c ≠ ',' ∧ isBlank c = false := by
    intro c listed
    exact ⟨fun same => segment.comma (same ▸ listed), segment.blank c listed⟩
  have known : canonicalPath cache.home (memberDocument "LIB" "FILE" "c.rpgle") =
      .ok "/LIB/FILE/C" := by decide +kernel
  have spelled : "own" ≠ "" ∧ SlashFree "own" := by decide +kernel
  have found := member_found_iff dotted_linkless dotted_apart rooted stands clear known rfl spelled
  apply found.1.mpr
  have first : dottedTree.firstMember? ["LIB", "FILE"] (withoutExtension "c.rpgle") =
      some "c.rpgle" := dotted_first (by decide +kernel)
  exact ⟨"c.rpgle", encodeUtf8 "dcl-c C 3;", first, stands, by decide +kernel, known⟩

/-- The first file is not found under the name it is known by, and it is served for the second. -/
theorem dotted_member_not_found :
    let source : LocalSource := ⟨dottedTree, []⟩
    let fetch := fun name => ContentCache.fetch source.toContentSource {}
      (memberDocument "LIB" "FILE" "own") name
    dottedTree.Linkless ∧ dottedTree.CaseApart ∧
      canonicalPath "/" (memberDocument "LIB" "FILE" "a.b.rpgle") = .ok "/LIB/FILE/A.B" ∧
      FetchFailed (fetch "a.b.rpgle").events "/LIB/FILE/A.B" ∧ (fetch "a.b.rpgle").lines = [] ∧
      canonicalPath "/" (memberDocument "LIB" "FILE" "a.rpgle") = .ok "/LIB/FILE/A" ∧
      (fetch "a.rpgle").path = some "/LIB/FILE/A" ∧ (fetch "a.rpgle").lines = ["dcl-c A 1;"] := by
  intro source fetch
  have stands : dottedTree.entry? ([] ++ ["LIB", "FILE", "a.b.rpgle"]) =
      some (.file (encodeUtf8 "dcl-c A 1;")) := by decide +kernel
  have serves : ∀ member path text,
      source.ServesFrom ⟨none, upper "LIB", upper "FILE", upper member⟩ path text ↔ _ :=
    fun member path text => serves_from_file_iff dotted_linkless dotted_apart rfl stands member
  have absent : ∀ text, source.serveMember ⟨none, "LIB", "FILE", "A.B"⟩ ≠ .ok text := by
    intro text serve
    obtain ⟨path, answers⟩ := LocalSource.serve_member_iff.mp serve
    obtain ⟨other, content, first, _⟩ := (serves "a.b" path text).mp answers
    have none : dottedTree.firstMember? ["LIB", "FILE"] "a.b" = none :=
      dotted_first (by decide +kernel)
    cases none.symm.trans first
  have answers : source.serveMember ⟨none, "LIB", "FILE", "A"⟩ = .ok "dcl-c A 1;" := by
    have first : dottedTree.firstMember? ["LIB", "FILE"] "a" = some "a.b.rpgle" :=
      dotted_first (by decide +kernel)
    have serve := (serves "a" _ "dcl-c A 1;").mpr
      ⟨_, _, first, stands, by decide +kernel, rfl⟩
    exact LocalSource.serve_member_iff.mpr ⟨_, serve⟩
  have unserved : source.toContentSource.served?
      ⟨"/LIB/FILE/A.B", .member, some ⟨none, "LIB", "FILE", "A.B"⟩⟩ = none := by
    simp only [ContentSource.served?, Resolved.request, LocalSource.toContentSource]
    cases serve : source.serveMember ⟨none, "LIB", "FILE", "A.B"⟩ with
    | error reason => rfl
    | ok text => exact absurd serve (absent text)
  have served : source.toContentSource.served?
      ⟨"/LIB/FILE/A", .member, some ⟨none, "LIB", "FILE", "A"⟩⟩ = some ["dcl-c A 1;"] := by
    simp only [ContentSource.served?, Resolved.request, LocalSource.toContentSource, answers]
    decide +kernel
  have first : ContentCache.resolve {} (memberDocument "LIB" "FILE" "own") "a.b.rpgle" =
      .ok ⟨"/LIB/FILE/A.B", .member, some ⟨none, "LIB", "FILE", "A.B"⟩⟩ := by decide +kernel
  have second : ContentCache.resolve {} (memberDocument "LIB" "FILE" "own") "a.rpgle" =
      .ok ⟨"/LIB/FILE/A", .member, some ⟨none, "LIB", "FILE", "A"⟩⟩ := by decide +kernel
  refine ⟨dotted_linkless, dotted_apart, by decide +kernel, ?_, ?_, by decide +kernel, ?_, ?_⟩
  · exact (ContentCache.fetch_failed_iff _ first _).mpr ⟨rfl, unserved⟩
  · rw [ContentCache.lines_of_fetch _ first, ContentCache.available?, unserved]
    rfl
  · exact ContentCache.path_of_fetch _ second
  · rw [ContentCache.lines_of_fetch _ second, ContentCache.available?, served]
    rfl

end RpgSymbols
