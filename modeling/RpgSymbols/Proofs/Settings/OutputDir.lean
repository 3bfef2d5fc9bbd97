import RpgSymbols.Command.Run
import RpgSymbols.Proofs.Files.Unrolling

/-!
Configured output directories. Whatever the links of the tree, a directory that is answered is the
resolved root or below it. If the path settles, all links in it are resolved, and it is answered or
refused; only a null character in the path, or a link that leads into itself, can end the resolution
without either.
-/

namespace RpgSymbols

open Text FileTree

/-- A configured path that is looked up in the tree: it is not empty and does not begin in the root of
the host or a home directory. -/
structure LookedUp (path : String) : Prop where
  filled : path.isEmpty = false
  relative : (startsWith path "~" || startsWith path "/") = false

instance (path : String) : Decidable (LookedUp path) :=
  decidable_of_iff (path.isEmpty = false ∧ (startsWith path "~" || startsWith path "/") = false)
    ⟨fun ⟨filled, relative⟩ => ⟨filled, relative⟩, fun looked => ⟨looked.filled, looked.relative⟩⟩

/-- The host comes upon a null character in names behind a place: those before it settle, so that it
is looked up, or it is left where resolution ends. -/
def FileTree.NullMet (tree : FileTree) (top : Place) (names : List String) : Prop :=
  hasNull names = true ∧
    ((∃ links place, tree.Settles links top (beforeNull names) place) ∨
      hasNull (tree.endOfResolution (top ++ names)) = true)

section Settled

variable {tree : FileTree} {top : Place} {names : List String}
  (settled : tree.Settles 0 [] top top)
include settled

theorem settles_behind_iff : (∃ links place, tree.Settles links [] (top ++ names) place) ↔
    ∃ links place, tree.Settles links top names place := by
  constructor
  · rintro ⟨links, place, settles⟩
    obtain ⟨inner, outer, middle, one, other⟩ := settles.split
    obtain ⟨_, rfl⟩ := settled.unique one
    exact ⟨outer, place, other⟩
  · rintro ⟨links, place, settles⟩
    exact ⟨_, place, settled.append settles⟩

theorem null_met_iff (whole : hasNull top = false) :
    tree.meetsNull [] ⟨true, top ++ names⟩ = true ↔ tree.NullMet top names := by
  rw [meets_null_iff, before_null_behind whole, settles_behind_iff settled, NullMet,
    endOfResolution, hasNull, List.any_append, ← hasNull, ← hasNull, whole, Bool.false_or]

end Settled

section OutputDir

variable {tree : FileTree} {root : List String} {path : String} {top : Place}

theorem output_dir_refused (refused : ¬ LookedUp path) :
    ∃ reason, resolveOutputDir tree root path = .ok (.error reason) := by
  unfold resolveOutputDir
  split
  · exact ⟨_, rfl⟩
  · rename_i filled
    split
    · exact ⟨_, rfl⟩
    · rename_i relative
      exact absurd ⟨Bool.not_eq_true _ ▸ filled, Bool.not_eq_true _ ▸ relative⟩ refused

theorem output_dir_looked_up (rooted : tree.resolve root = .ok top) (looked : LookedUp path) :
    resolveOutputDir tree root path = (tree.resolve (top ++ pathNames path)).map fun place =>
      if top.isPrefixOf place then .ok place else .error (.escapes path) := by
  simp only [resolveOutputDir, looked.filled, looked.relative, rooted, bind, Except.bind]
  cases tree.resolve (top ++ pathNames path) with
  | error reason => rfl
  | ok place => cases inside : top.isPrefixOf place <;> simp [Except.map, inside] <;> rfl

theorem output_dir_error_iff (rooted : tree.resolve root = .ok top) {error : ResolveError} :
    resolveOutputDir tree root path = .error error ↔
      LookedUp path ∧ tree.resolve (top ++ pathNames path) = .error error := by
  by_cases looked : LookedUp path
  · rw [output_dir_looked_up rooted looked]
    cases tree.resolve (top ++ pathNames path) <;> simp [Except.map, looked]
  · obtain ⟨reason, refuses⟩ := @output_dir_refused tree root path looked
    simp [refuses, looked]

theorem output_dir_below (rooted : tree.resolve root = .ok top) {place : Place}
    (answers : resolveOutputDir tree root path = .ok (.ok place)) : top <+: place := by
  by_cases looked : LookedUp path
  · rw [output_dir_looked_up rooted looked] at answers
    cases resolves : tree.resolve (top ++ pathNames path) with
    | error reason =>
        rw [resolves] at answers
        cases answers
    | ok found =>
        rw [resolves, Except.map, Except.ok.injEq] at answers
        split at answers
        · rename_i inside
          cases answers
          exact List.isPrefixOf_iff_prefix.mp inside
        · cases answers
  · obtain ⟨reason, refuses⟩ := @output_dir_refused tree root path looked
    rw [refuses] at answers
    cases answers

/-! The command. -/

section Generating

variable {environment : Command.Environment} {verbose : Bool} {written : String} {settings : Config}
  (placed : environment.place written = .ok root)
  (loads : loadConfig environment.tree root = .config settings)
include placed loads

theorem run_generate_refused {reason : OutputDirError}
    (refuses : resolveOutputDir environment.tree root settings.outputDir = .ok (.error reason)) :
    Command.runGenerate environment verbose written none =
      .ok (Command.refuse environment 2 reason.message) := by
  simp only [Command.runGenerate, generate, placed, loads, refuses, bind, Except.bind]
  rfl

theorem run_generate_fails {error : ResolveError}
    (fails : resolveOutputDir environment.tree root settings.outputDir = .error error) :
    Command.runGenerate environment verbose written none = .error (.resolution error) := by
  simp only [Command.runGenerate, generate, placed, loads, fails, bind, Except.bind]

end Generating

end OutputDir

/-- Whatever the path, a directory that is answered is the resolved root or below it. A path that
settles is answered or refused, and no link is left in where it settles. What is left are paths in
which the host comes upon a null character, and those whose resolution ends at a link that leads into
itself, if it cannot be walked to where it ends. The command refuses with an exit code what is refused,
and fails with what fails. -/
theorem output_dir_within_root {tree : FileTree}
    (whole : ∀ entry ∈ tree.entries, hasNull entry.1 = false) {root : List String} {top : Place}
    (rooted : tree.locate root = .ok top) (path : String) :
    (∀ place, resolveOutputDir tree root path = .ok (.ok place) → top <+: place) ∧
    (∀ links place, LookedUp path → hasNull (pathNames path) = false →
      tree.Settles links top (pathNames path) place → tree.Straight place ∧
        resolveOutputDir tree root path =
          .ok (if top.isPrefixOf place then .ok place else .error (.escapes path))) ∧
    (∀ error, resolveOutputDir tree root path = .error error ↔ LookedUp path ∧
      (tree.NullMet top (pathNames path) ∧ error = .embeddedNull ∨
        ¬ tree.NullMet top (pathNames path) ∧
          (¬ ∃ links place, tree.Settles links top (pathNames path) place) ∧
          tree.locate (tree.endOfResolution (top ++ pathNames path)) = .error .tooManyLinks ∧
          error = .linkLoop (tree.endOfResolution (top ++ pathNames path)).text)) ∧
    ∀ (environment : Command.Environment) (verbose : Bool) (written : String) (settings : Config),
      environment.tree = tree → environment.place written = .ok root →
      loadConfig tree root = .config settings → settings.outputDir = path →
      (∀ reason, resolveOutputDir tree root path = .ok (.error reason) →
        Command.runGenerate environment verbose written none =
          .ok (Command.refuse environment 2 reason.message)) ∧
      ∀ error, resolveOutputDir tree root path = .error error →
        Command.runGenerate environment verbose written none = .error (.resolution error) := by
  obtain ⟨reached, plain, leads⟩ := leads_of_located rooted
  have arrives : tree.locate top = .ok top := locate_iff.mpr ⟨0, Nat.zero_le _, leads⟩
  have wholeTop : hasNull top = false := whole_of_located whole arrives
  have resolvesRoot : tree.resolve root = .ok top :=
    resolve_of_locate [] rooted (whole_of_located whole rooted)
  refine ⟨fun place => output_dir_below resolvesRoot, ?_, ?_, ?_⟩
  · intro links place looked wholePath settles
    have wholeNames : hasNull (top ++ pathNames path) = false := by
      rw [hasNull, List.any_append, ← hasNull, ← hasNull, wholeTop, wholePath, Bool.or_false]
    have resolves : tree.resolve (top ++ pathNames path) = .ok place :=
      resolve_of_settles [] (leads.settles.append settles) wholeNames
    refine ⟨settles.straight reached.straight, ?_⟩
    rw [output_dir_looked_up resolvesRoot looked, resolves, Except.map]
  · intro error
    rw [output_dir_error_iff resolvesRoot, resolve_error_iff, ← Bool.not_eq_true,
      null_met_iff leads.settles wholeTop]
    refine and_congr_right fun _ => or_congr_right (and_congr_right fun _ => ?_)
    refine (and_iff_right_of_imp ?_).symm
    rintro ⟨fails, _⟩ settles
    obtain ⟨links, place, fromTop⟩ := (settles_behind_iff leads.settles).mpr settles
    rw [end_of_settled fromTop] at fails
    exact locate_straight (fromTop.plain_place plain_top) (fromTop.straight (straight_top tree)) fails
  · rintro environment verbose written settings rfl placed loads rfl
    exact ⟨fun reason => run_generate_refused placed loads,
      fun error => run_generate_fails placed loads⟩

/-- A null character behind a link to itself is never looked up, so it stops no resolution. -/
example :
    let tree : FileTree := ⟨[(["proj"], .directory), (["proj", "loop"], .link "loop")]⟩
    resolveOutputDir tree ["proj"] "a\x00b/.." = .error .embeddedNull ∧
      resolveOutputDir tree ["proj"] "loop/a\x00b/.." = .error (.linkLoop "/proj/loop") ∧
      resolveOutputDir tree ["proj"] "loop/../a\x00b/.." = .ok (.ok ["proj"]) := by
  decide +kernel

/-! A project with links below it. -/

/-- A project with links to a directory still to be made and, under the name of the output directory
without settings, out of the project. -/
def linkedProject : FileTree where
  entries := [
    (["proj"], .directory),
    (["proj", ".rpglemap"], .link ".."),
    (["proj", "build"], .directory),
    (["proj", "out"], .link "build/new")]

theorem linked_project_passes {here place : Place} {name : String} {rest : List String} {links : Nat}
    (plain : PlainName name)
    (unlinked : linkedProject.entry? (here ++ [name]) ∈ [none, some .directory])
    (later : linkedProject.Settles links (here ++ [name]) rest place) :
    linkedProject.Settles links here (name :: rest) place := by
  refine .pass plain ?_ later
  intro target linked
  simp [linked] at unlinked

theorem linked_project_settles :
    linkedProject.Settles 1 ["proj"] (pathNames "out/./deep") ["proj", "build", "new", "deep"] ∧
      linkedProject.Settles 1 ["proj"] (pathNames ".rpglemap") [] := by
  have steps : pathNames "out/./deep" = ["out", "deep"] := by decide +kernel
  have step : pathNames ".rpglemap" = [".rpglemap"] := by decide +kernel
  have target : split '/' "build/new" = ["build", "new"] := by decide +kernel
  have above : split '/' ".." = [".."] := by decide +kernel
  have out : linkedProject.entry? ["proj", "out"] = some (.link "build/new") := by decide +kernel
  have up : linkedProject.entry? ["proj", ".rpglemap"] = some (.link "..") := by decide +kernel
  have aside : linkedProject.Settles 0 ["proj"] (split '/' "build/new") ["proj", "build", "new"] := by
    rw [target]
    refine linked_project_passes (by decide) (by decide +kernel) ?_
    exact linked_project_passes (by decide) (by decide +kernel) (.done _)
  have outside : linkedProject.Settles 0 ["proj"] (split '/' "..") [] := by
    rw [above]
    exact .climb (.done _)
  have deep : linkedProject.Settles 0 ["proj", "build", "new"] ["deep"]
      ["proj", "build", "new", "deep"] :=
    linked_project_passes (by decide) (by decide +kernel) (.done _)
  rw [steps, step]
  exact ⟨.follow (by decide) out aside deep, .follow (by decide) up outside (.done _)⟩

theorem linked_output_dirs :
    (∀ entry ∈ linkedProject.entries, hasNull entry.1 = false) ∧
      linkedProject.locate ["proj"] = .ok ["proj"] ∧
      linkedProject.Straight ["proj", "build", "new", "deep"] ∧
      resolveOutputDir linkedProject ["proj"] "out/./deep" =
        .ok (.ok ["proj", "build", "new", "deep"]) ∧
      resolveOutputDir linkedProject ["proj"] ".rpglemap" = .ok (.error (.escapes ".rpglemap")) ∧
      Command.runGenerate ⟨linkedProject, [], fun _ => none⟩ false "proj" none =
        .ok (Command.refuse ⟨linkedProject, [], fun _ => none⟩ 2
          (OutputDirError.escapes ".rpglemap").message) := by
  have whole : ∀ entry ∈ linkedProject.entries, hasNull entry.1 = false := by decide +kernel
  have rooted : linkedProject.locate ["proj"] = .ok ["proj"] := by decide +kernel
  have placed : (Command.Environment.mk linkedProject [] fun _ => none).place "proj" =
      .ok ["proj"] := by decide +kernel
  have unsettled : linkedProject.find? ["proj", configFileName] = none := by decide +kernel
  have loads : loadConfig linkedProject ["proj"] = .config {} := by
    rw [loadConfig, List.singleton_append, unsettled]
  obtain ⟨settlesInside, settlesOutside⟩ := linked_project_settles
  obtain ⟨_, settled, _, _⟩ := output_dir_within_root whole rooted "out/./deep"
  obtain ⟨straight, answered⟩ := settled _ _ (by decide +kernel) (by decide +kernel) settlesInside
  obtain ⟨_, settled, _, commanded⟩ := output_dir_within_root whole rooted ".rpglemap"
  obtain ⟨_, refused⟩ := settled _ _ (by decide +kernel) (by decide +kernel) settlesOutside
  have reported := (commanded _ false "proj" {} rfl placed loads rfl).1 _ refused
  exact ⟨whole, rooted, straight, answered, refused, reported⟩

/-- An output directory that is a link to itself, and one that steps out of such a link, so that the
link behind it is answered as it stands, though it leads out of the project. -/
theorem looping_output_dirs :
    let looping : FileTree := ⟨[([".rpglemap"], .link ".rpglemap")]⟩
    let stepping : FileTree := ⟨[(["etc"], .directory), (["proj"], .directory),
      (["proj", "loop"], .link "loop"), (["proj", "out"], .link "/etc")]⟩
    resolveOutputDir looping [] ".rpglemap" = .error (.linkLoop "/.rpglemap") ∧
      Command.runGenerate ⟨looping, [], fun _ => none⟩ false "." none =
        .error (.resolution (.linkLoop "/.rpglemap")) ∧
      resolveOutputDir stepping ["proj"] "loop/../out" = .ok (.ok ["proj", "out"]) ∧
      stepping.locate ["proj", "out"] = .ok ["etc"] := by
  intro looping stepping
  have unsettled : looping.find? [configFileName] = none := by decide +kernel
  have loads : loadConfig looping [] = .config {} := by
    rw [loadConfig, List.nil_append, unsettled]
  have fails : resolveOutputDir looping [] ".rpglemap" = .error (.linkLoop "/.rpglemap") := by
    decide +kernel
  have placed : (Command.Environment.mk looping [] fun _ => none).place "." = .ok [] := by
    decide +kernel
  exact ⟨fails, run_generate_fails placed loads fails, by decide +kernel, by decide +kernel⟩

end RpgSymbols
