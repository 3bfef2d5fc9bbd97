import RpgSymbols.Files.LocalSource
import RpgSymbols.Proofs.Files.FullResolution

/-!
Nothing outside the root is served. The path that was found is resolved before it is read, and a
path that can be read is resolved to the very file that is read; so the file is below the root,
whatever links led there.
-/

namespace RpgSymbols

open Text

/-- Steps that may fail succeed together if each succeeds on what the one before answers. -/
theorem bind_ok_iff {Error First Second : Type} {first : Except Error First}
    {next : First → Except Error Second} {answer : Second} :
    (first >>= next) = .ok answer ↔ ∃ value, first = .ok value ∧ next value = .ok answer := by
  cases first with
  | error reason =>
      constructor
      · intro succeeds
        cases succeeds
      · rintro ⟨_, succeeds, _⟩
        cases succeeds
  | ok value =>
      constructor
      · exact fun succeeds => ⟨value, rfl, succeeds⟩
      · rintro ⟨_, ⟨rfl⟩, succeeds⟩
        exact succeeds

namespace FileTree

variable {tree : FileTree}

theorem is_within_iff {root names : List String} :
    tree.isWithin root names = .ok true ↔
      ∃ place top, tree.resolve names = .ok place ∧ tree.resolve root = .ok top ∧ top <+: place := by
  unfold isWithin
  simp only [bind_ok_iff]
  constructor
  · rintro ⟨place, resolves, top, rooted, inside⟩
    exact ⟨place, top, resolves, rooted, List.isPrefixOf_iff_prefix.mp (Except.ok.inj inside)⟩
  · rintro ⟨place, top, resolves, rooted, inside⟩
    exact ⟨place, resolves, top, rooted,
      congrArg Except.ok (List.isPrefixOf_iff_prefix.mpr inside)⟩

theorem read_iff {names : List String} {bytes : List UInt8} :
    tree.read names = .ok bytes ↔
      ∃ place, tree.locate names = .ok place ∧ tree.entry? place = some (.file bytes) := by
  unfold read
  cases tree.locate names with
  | error reason => simp
  | ok place =>
      cases found : tree.entry? place with
      | none => simp [found]
      | some entry => cases entry <;> simp [found]

theorem is_file_iff {names : List String} :
    tree.isFile names = true ↔ hasNull names = false ∧ ∃ bytes, tree.read names = .ok bytes := by
  simp only [read_iff, isFile, find?]
  by_cases null : hasNull names = true
  · simp [null]
  · cases tree.locate names with
    | error reason => simp [null, Except.toOption]
    | ok place =>
        cases found : tree.entry? place with
        | none => simp [null, Except.toOption, found]
        | some entry => cases entry <;> simp [null, Except.toOption, found]

end FileTree

namespace LocalSource

variable {source : LocalSource}

/-- The path leads to a file of the given text, and the file is below the root. -/
structure TextWithin (source : LocalSource) (path : List String) (text : String) : Prop where
  whole : hasNull path = false
  text : ∃ bytes, source.tree.read path = .ok bytes ∧ readText? bytes = some text
  within : source.tree.isWithin source.root path = .ok true

theorem read_at_iff {path : List String} {text : String} :
    source.readAt path = .ok text ↔
      ∃ bytes, source.tree.read path = .ok bytes ∧ readText? bytes = some text := by
  unfold readAt
  cases source.tree.read path with
  | error reason => simp
  | ok bytes => cases decoded : readText? bytes <;> simp [decoded]

theorem locate_some_iff {names path : List String} :
    source.locate names = .ok (some path) ↔
      source.descend source.root names = some path ∧
        source.tree.isWithin source.root path = .ok true := by
  unfold locate
  cases source.descend source.root names with
  | none =>
      constructor
      · intro located
        cases located
      · rintro ⟨descends, _⟩
        cases descends
  | some found =>
      simp only [bind_ok_iff]
      constructor
      · rintro ⟨inside, within, answers⟩
        cases inside with
        | false => cases answers
        | true =>
            cases answers
            exact ⟨rfl, within⟩
      · rintro ⟨⟨rfl⟩, within⟩
        exact ⟨true, within, rfl⟩

def streamNames (path : String) : List String :=
  (split '/' path).filter fun name => !name.isEmpty

/-- A stream file is served exactly if the walk from the root ends at a file below the root. -/
theorem serve_stream_iff {path text : String} :
    source.serveStream path = .ok text ↔
      ∃ found, source.descend source.root (streamNames path) = some found ∧
        source.TextWithin found text := by
  unfold serveStream
  rw [← streamNames]
  constructor
  · intro serves
    cases located : source.locate (streamNames path) with
    | error reason =>
        rw [located] at serves
        cases serves
    | ok found =>
        rw [located] at serves
        cases found with
        | none => cases serves
        | some names =>
            obtain ⟨descends, within⟩ := locate_some_iff.mp located
            by_cases file : source.tree.isFile names = true
            · simp only [Option.filter_some, file, if_true] at serves
              exact ⟨names, descends, (FileTree.is_file_iff.mp file).1, read_at_iff.mp serves,
                within⟩
            · simp [Option.filter_some, file] at serves
  · rintro ⟨found, descends, whole, ⟨bytes, reads, decodes⟩, within⟩
    have located := locate_some_iff.mpr ⟨descends, within⟩
    have file := FileTree.is_file_iff.mpr ⟨whole, bytes, reads⟩
    simp only [located, Option.filter_some, file, if_true]
    exact read_at_iff.mpr ⟨bytes, reads, decodes⟩

theorem locate_member_iff {parts path : List String} {member : String} :
    source.locateMember parts member = .ok (some path) ↔
      ∃ directory, source.locate parts = .ok (some directory) ∧
        source.memberFile? directory member = some path ∧
        source.tree.isWithin source.root path = .ok true := by
  unfold locateMember
  rw [bind_ok_iff]
  constructor
  · rintro ⟨found, located, answers⟩
    cases found with
    | none => cases answers
    | some directory =>
        dsimp only at answers
        cases listed : source.memberFile? directory member with
        | none =>
            rw [listed] at answers
            cases answers
        | some file =>
            rw [listed] at answers
            obtain ⟨inside, within, answers⟩ := bind_ok_iff.mp answers
            cases inside with
            | false => cases answers
            | true =>
                cases answers
                exact ⟨directory, located, listed, within⟩
  · rintro ⟨directory, located, listed, within⟩
    refine ⟨some directory, located, ?_⟩
    dsimp only
    rw [listed]
    exact bind_ok_iff.mpr ⟨true, within, rfl⟩

theorem locate_member_some {parts path : List String} {member : String}
    (located : source.locateMember parts member = .ok (some path)) :
    hasNull path = false ∧ source.tree.isWithin source.root path = .ok true := by
  obtain ⟨directory, _, listed, within⟩ := locate_member_iff.mp located
  obtain ⟨name, named, rfl⟩ := Option.map_eq_some_iff.mp listed
  have suits := List.find?_some named
  exact ⟨(FileTree.is_file_iff.mp (Bool.and_eq_true_iff.mp suits).1).1, within⟩

theorem serve_member_within {address : MemberAddress} {text : String}
    (serves : source.serveMember address = .ok text) : ∃ found, source.TextWithin found text := by
  unfold serveMember at serves
  dsimp only at serves
  split at serves
  · cases serves
  · rename_i path located
    obtain ⟨whole, within⟩ := locate_member_some located
    exact ⟨path, whole, read_at_iff.mp serves, within⟩
  · cases serves

/-- What a path within the root leads to is the file that its resolved form names. -/
theorem TextWithin.place {path : List String} {text : String} (held : source.TextWithin path text) :
    ∃ place bytes top, source.tree.resolve path = .ok place ∧ source.tree.Reached place ∧
      source.tree.entry? place = some (.file bytes) ∧ readText? bytes = some text ∧
      source.tree.resolve source.root = .ok top ∧ top <+: place := by
  obtain ⟨bytes, reads, decodes⟩ := held.text
  obtain ⟨place, locates, found⟩ := FileTree.read_iff.mp reads
  have resolves : source.tree.resolve path = .ok place :=
    FileTree.resolve_of_locate [] locates held.whole
  obtain ⟨other, top, resolved, rooted, inside⟩ := FileTree.is_within_iff.mp held.within
  cases resolves.symm.trans resolved
  exact ⟨place, bytes, top, resolves, (FileTree.leads_of_located locates).1, found, decodes, rooted,
    inside⟩

end LocalSource

/-- Whatever a local source serves, for a stream path or for a member of any parts, is the text of a
regular file at a place where no link stands, and that place is the resolved root or below it. -/
theorem served_text_within_root {source : LocalSource} {request : Request} {text : String}
    (serves : source.toContentSource.serve request = .ok text) :
    ∃ path place bytes top, source.tree.resolve path = .ok place ∧ source.tree.Reached place ∧
      source.tree.entry? place = some (.file bytes) ∧ readText? bytes = some text ∧
      source.tree.resolve source.root = .ok top ∧ top <+: place := by
  cases request with
  | stream path =>
      obtain ⟨found, _, within⟩ := LocalSource.serve_stream_iff.mp serves
      exact ⟨found, within.place⟩
  | member address =>
      obtain ⟨found, within⟩ := LocalSource.serve_member_within serves
      exact ⟨found, within.place⟩

/-- A root behind a link, with a link that leaves it and comes back, one that stays outside, and a
file beside it. -/
def linkedTree : FileTree where
  entries := [
    (["base"], .directory),
    (["base", "real"], .directory),
    (["base", "real", "inc"], .file (encodeUtf8 "dcl-c k 1;")),
    (["base", "real", "BACK"], .link "../out/back"),
    (["base", "real", "AWAY"], .link "/base/secret"),
    (["base", "root"], .link "real"),
    (["base", "out"], .directory),
    (["base", "out", "back"], .link "/base/real/inc"),
    (["base", "secret"], .file (encodeUtf8 "dcl-c hidden 1;"))]

theorem linked_text_within_root :
    let source : LocalSource := ⟨linkedTree, ["base", "root"]⟩
    source.toContentSource.serve (.stream "/BACK") = .ok "dcl-c k 1;" ∧
      (∃ reason, source.toContentSource.serve (.stream "/AWAY") = .error reason) ∧
      ∃ path place bytes top, linkedTree.resolve path = .ok place ∧ linkedTree.Reached place ∧
        linkedTree.entry? place = some (.file bytes) ∧ readText? bytes = some "dcl-c k 1;" ∧
        linkedTree.resolve ["base", "root"] = .ok top ∧ top <+: place := by
  intro source
  have serves : source.toContentSource.serve (.stream "/BACK") = .ok "dcl-c k 1;" := by
    decide +kernel
  refine ⟨serves, ⟨.unavailable "Stream file not found: /AWAY", by decide +kernel⟩, ?_⟩
  exact served_text_within_root serves

end RpgSymbols
