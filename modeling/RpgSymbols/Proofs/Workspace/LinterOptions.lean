import RpgSymbols.Proofs.Json.LineBreaks
import RpgSymbols.Proofs.Workspace.Run
import RpgSymbols.Workspace.Lint

/-!
Linter options. An options file is held as one text if the editor opened it, and as lines if it was
fetched or saved. Its lines are joined with nothing between them, which takes the breaks out of the
text and changes nothing of the object it holds.
-/

namespace RpgSymbols.Workspace

open Text

variable {workspace : Workspace} {document : Document} {text : String} {fields : Table Json}

/-- Options are read from whatever lines make up the text of an object when they are joined. -/
theorem parse_linter_options_joined {parts : List String}
    (parses : Json.parseChars? (join "" parts).toList = some (.obj fields)) :
    parseLinterOptions parts = some fields := by
  have trimmed : Json.parse? (trim (join "" parts)) = some (.obj fields) := by
    rw [Json.parse?, trim, String.toList_ofList]
    exact Json.parse_trimmed parses
  have some : (trim (join "" parts)).isEmpty = false := by
    rw [Bool.eq_false_iff, ne_eq, String.isEmpty_iff]
    intro empty
    have nothing : Json.parse? "" = none := Option.isNone_iff_eq_none.mp (by decide +kernel)
    rw [empty, nothing] at trimmed
    cases trimmed
  simp only [parseLinterOptions, some, Bool.false_eq_true, if_false, trimmed]

theorem parse_linter_options_whole (parses : Json.parse? text = some (.obj fields)) :
    parseLinterOptions [text] = some fields :=
  parse_linter_options_joined parses

theorem parse_linter_options_lines (parses : Json.parse? text = some (.obj fields)) :
    parseLinterOptions (lines text) = some fields := by
  apply parse_linter_options_joined
  rw [join_lines]
  exact Json.parse_without_breaks parses

/-- The text of an options file that the editor opened is held as it is. -/
theorem opened_options_held (source : ContentSource)
    (marked : contains (openedLinterPath document) linterMarker = true)
    (fresh : workspace.content.get? (openedLinterPath document) = none) :
    (workspace.onOpen source document text "json").workspace.content.get?
      (openedLinterPath document) = some [text] := by
  simp [onOpen, trackLinterOptions, marked, ContentCache.holds, fresh, ContentCache.get_put]

/-- The options of a document are the object that its options file holds, whether the text of the
file is held as it was opened or in lines. -/
theorem linter_options_of_text {resolved : Resolved}
    (addressed : workspace.linterPath? document = some resolved)
    (parses : Json.parse? text = some (.obj fields))
    (held : workspace.content.get? resolved.canonicalPath = some [text] ∨
      workspace.content.get? resolved.canonicalPath = some (lines text)) :
    workspace.linterOptions document = (fields, []) := by
  have options : parseLinterOptions ((workspace.content.get? resolved.canonicalPath).getD []) =
      some fields := by
    rcases held with whole | split
    · rw [whole]
      exact parse_linter_options_whole parses
    · rw [split]
      exact parse_linter_options_lines parses
  simp only [linterOptions, addressed, options]

/-- A text with breaks of both kinds, opened in one session and fetched in another. -/
theorem opened_and_fetched_options :
    let document : Document := ⟨"streamfile", "/A"⟩
    let text := "\x7b\r\n\t\"indent\": 4,\n \"Rules\" :[true,\r\n\"a\\n\\u00e9\"\r\n]\r\n\x7d\n"
    let fields : Table Json :=
      [("indent", .int 4), ("Rules", .arr [.bool true, .str "a\né"])]
    let opened := ((start "/").onOpen (.ofStreams []) ⟨"streamfile", "/.vscode/rpglint.json"⟩ text
      "json").workspace
    let fetched := ((start "/").loadLinterOptions (.ofStreams [("/.VSCODE/RPGLINT.JSON", text)])
      document).workspace
    opened.linterOptions document = (fields, []) ∧ fetched.linterOptions document = (fields, []) := by
  intro document text fields opened fetched
  have parses : Json.parse? text = some (.obj fields) := by
    simp only [Json.parse?, text, String.reduceToList]
    with_unfolding_all rfl
  have openedPath : (opened.linterPath? document).map Resolved.canonicalPath =
      some "/.VSCODE/RPGLINT.JSON" := by decide +kernel
  have fetchedPath : (fetched.linterPath? document).map Resolved.canonicalPath =
      some "/.VSCODE/RPGLINT.JSON" := by decide +kernel
  have held : openedLinterPath ⟨"streamfile", "/.vscode/rpglint.json"⟩ = "/.VSCODE/RPGLINT.JSON" := by
    decide +kernel
  have whole : opened.content.get? "/.VSCODE/RPGLINT.JSON" = some [text] := by
    rw [← held]
    exact opened_options_held _ (by decide +kernel) (by decide +kernel)
  have split : fetched.content.get? "/.VSCODE/RPGLINT.JSON" = some (lines text) := by
    decide +kernel
  obtain ⟨first, firstAddressed, firstPath⟩ := Option.map_eq_some_iff.mp openedPath
  obtain ⟨second, secondAddressed, secondPath⟩ := Option.map_eq_some_iff.mp fetchedPath
  rw [← firstPath] at whole
  rw [← secondPath] at split
  exact ⟨linter_options_of_text firstAddressed parses (.inl whole),
    linter_options_of_text secondAddressed parses (.inr split)⟩

end RpgSymbols.Workspace
