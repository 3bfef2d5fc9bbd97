import RpgSymbols.Proofs.Files.Looping

/-!
The stream files of a root without links below it. A path is served as the one file that it names in
any case, and if there is no such file there is a refusal: no walk ends at a link, so nothing else can
go wrong.
-/

namespace RpgSymbols

open Text

/-- A file stands below the place whose names are the given ones in upper case, and it has the
text. -/
def FileTree.HoldsText (tree : FileTree) (top : Place) (names : List String) (text : String) : Prop :=
  ∃ below bytes, below.map upper = names.map upper ∧
    tree.entry? (top ++ below) = some (.file bytes) ∧ readText? bytes = some text

section Below

variable {tree : FileTree} {top : Place} (linkless : tree.LinklessBelow top)
include linkless

/-- No file has a name that stays in a directory or leaves it. -/
theorem FileTree.plain_of_holds_text {names : List String} {text : String}
    (holds : tree.HoldsText top names text) : FileTree.PlainPlace names := by
  obtain ⟨below, bytes, alike, found, _⟩ := holds
  have plain := FileTree.plain_of_entry linkless.toGrounded (Option.isSome_of_eq_some found)
  intro name listed
  have image : upper name ∈ below.map upper := alike ▸ List.mem_map_of_mem listed
  obtain ⟨other, held, same⟩ := List.mem_map.mp image
  exact FileTree.plain_upper_iff.mp (same ▸ FileTree.plain_upper_iff.mpr (plain other held))

variable (apart : tree.CaseApartBelow top) {root : List String} (rooted : tree.locate root = .ok top)
include apart rooted

theorem LocalSource.locate_below_succeeds {path : List String} (spelled : PathNames path)
    (error : ResolveError) : (LocalSource.mk tree root).locate path ≠ .error error := by
  intro fails
  obtain ⟨found, descends, unresolved⟩ := LocalSource.locate_error_iff.mp fails
  obtain ⟨below, _, stands, rfl⟩ :=
    (LocalSource.descend_iff linkless apart rooted spelled).mp descends
  have plain := FileTree.plain_of_entry linkless.toGrounded stands
  have located := (FileTree.locate_below linkless rooted plain).mpr ⟨rfl, stands⟩
  have resolves := FileTree.resolve_of_locate [] located
    (FileTree.whole_of_located linkless.whole located)
  dsimp only at unresolved
  rw [FileTree.resolve, resolves] at unresolved
  cases unresolved

end Below

/-- A path is served exactly as the file below the root that has its names in upper case. If there is
no such file, or if one of the names is `.` or `..`, the path is refused. -/
theorem stream_file_found_iff {tree : FileTree} {top : Place} (linkless : tree.LinklessBelow top)
    (apart : tree.CaseApartBelow top) {root : List String} (rooted : tree.locate root = .ok top)
    (path : String) :
    let source := (LocalSource.mk tree root).toContentSource
    let names := LocalSource.streamNames path
    (∀ text, source.serve (.stream path) = .ok text ↔ tree.HoldsText top names text) ∧
      ((∀ text, ¬ tree.HoldsText top names text) →
        ∃ message, source.serve (.stream path) = .error (.unavailable message)) ∧
      ("." ∈ names ∨ ".." ∈ names →
        ∃ message, source.serve (.stream path) = .error (.unavailable message)) := by
  intro source names
  have found : ∀ text, source.serve (.stream path) = .ok text ↔ tree.HoldsText top names text :=
    fun text => LocalSource.serve_stream_below_iff linkless apart rooted
  have refused : (∀ text, ¬ tree.HoldsText top names text) →
      ∃ message, source.serve (.stream path) = .error (.unavailable message) := by
    intro nothing
    have spelled := LocalSource.stream_names_path path
    have answers := (@LocalSource.serve_loop_free_iff ⟨tree, root⟩ (.stream path)).mpr fun loop =>
      LocalSource.locate_below_succeeds linkless apart rooted spelled (.linkLoop loop)
    exact answers.resolve_left fun ⟨text, serves⟩ => nothing text ((found text).mp serves)
  refine ⟨found, refused, fun moves => refused fun text holds => ?_⟩
  have plain := FileTree.plain_of_holds_text linkless holds
  rcases moves with stays | climbs
  · exact (plain _ stays).moves rfl
  · exact (plain _ climbs).descends rfl

/-- A root behind a link, with names that have more letters in upper case, and a file that is no
text. -/
def foldingTree : FileTree where
  entries := [
    (["data"], .directory),
    (["data", "Stra\u00DFe"], .directory),
    (["data", "Stra\u00DFe", "\uFB01le.Inc"], .file (encodeUtf8 "dcl-c k 1;\r\n")),
    (["data", "Stra\u00DFe", "latin"], .file [0xE9]),
    (["root"], .link "data")]

theorem folding_names_found :
    foldingTree.LinklessBelow ["data"] ∧ foldingTree.CaseApartBelow ["data"] ∧
      foldingTree.locate ["root"] = .ok ["data"] ∧
      let source := (LocalSource.mk foldingTree ["root"]).toContentSource
      source.serve (.stream "//strasse/FILE.inc") = .ok "dcl-c k 1;\n" ∧
        (∃ message, source.serve (.stream "/STRASSE/LATIN") = .error (.unavailable message)) ∧
        ∃ message, source.serve (.stream "/STRASSE/../STRASSE/FILE.INC") =
          .error (.unavailable message) := by
  have linkless : foldingTree.LinklessBelow ["data"] :=
    ⟨⟨⟨by decide +kernel, by decide +kernel⟩, by decide +kernel, by decide +kernel⟩,
      by decide +kernel, by simp [foldingTree]⟩
  have apart : foldingTree.CaseApartBelow ["data"] :=
    (FileTree.case_apart_of_places (by decide +kernel)).below _
  have rooted : foldingTree.locate ["root"] = .ok ["data"] := by decide +kernel
  have found := stream_file_found_iff linkless apart rooted
  refine ⟨linkless, apart, rooted, ?_, ?_, ?_⟩
  · refine ((found _).1 _).mpr ⟨["Stra\u00DFe", "\uFB01le.Inc"], encodeUtf8 "dcl-c k 1;\r\n", ?_⟩
    exact ⟨by decide +kernel, by decide +kernel, by decide +kernel⟩
  · refine (found _).2.1 fun text holds => ?_
    obtain ⟨below, bytes, alike, held, decodes⟩ := holds
    have listed := FileTree.place_of_entry (by simp) held
    simp only [foldingTree, List.mem_cons, Prod.mk.injEq, List.cons_append, List.nil_append,
      List.cons.injEq, List.not_mem_nil, reduceCtorEq, and_false, true_and, false_or, or_false,
      Entry.file.injEq] at listed
    rcases listed with ⟨rfl, rfl⟩ | ⟨rfl, rfl⟩
    · revert alike
      decide +kernel
    · revert decodes
      simp [show readText? [0xE9] = none by decide +kernel]
  · exact (found _).2.2 (by decide +kernel)

end RpgSymbols
