import RpgSymbols.Proofs.Files.Unrolling

/-!
Failures of a local source. A source answers a text, or it says that there is none, with one
exception: the walk from the root may end at a link that leads into itself. Such a link leads nowhere,
so nothing is there under the name as it is written; but the link itself is listed under that name,
and then it cannot be resolved.
-/

namespace RpgSymbols

open Text

/-- The names that are walked from the root: all those of a stream file, and those above a member. -/
def Request.walked : Request → List String
  | .stream path => LocalSource.streamNames path
  | .member address =>
      (address.group.filter fun name => !name.isEmpty).toList ++ [address.library, address.file]

/-- Steps that may fail fail at the first one, or at the next on what the first one answers. -/
theorem bind_error_iff {Error First Second : Type} {first : Except Error First}
    {next : First → Except Error Second} {reason : Error} :
    (first >>= next) = .error reason ↔
      first = .error reason ∨ ∃ value, first = .ok value ∧ next value = .error reason := by
  cases first with
  | error other =>
      constructor
      · exact fun fails => .inl (congrArg Except.error (Except.error.inj fails))
      · rintro (fails | ⟨_, succeeds, _⟩)
        · exact congrArg Except.error (Except.error.inj fails)
        · cases succeeds
  | ok value =>
      constructor
      · exact fun fails => .inr ⟨value, rfl, fails⟩
      · rintro (fails | ⟨_, ⟨rfl⟩, fails⟩)
        · cases fails
        · exact fails

namespace FileTree

variable {tree : FileTree}

theorem located_of_found {names : List String} (leads : tree.leadsSomewhere names = true) :
    hasNull names = false ∧ ∃ place, tree.locate names = .ok place := by
  unfold leadsSomewhere find? at leads
  split at leads
  · cases leads
  · rename_i whole
    refine ⟨Bool.not_eq_true _ ▸ whole, ?_⟩
    cases locates : tree.locate names with
    | error reason =>
        rw [locates] at leads
        cases leads
    | ok place => exact ⟨place, rfl⟩

theorem resolve_of_found {names : List String} (leads : tree.leadsSomewhere names = true) :
    ∃ place, tree.resolve names = .ok place := by
  obtain ⟨whole, place, locates⟩ := located_of_found leads
  exact ⟨place, resolve_of_locate [] locates whole⟩

theorem leads_of_directory {names : List String} (inside : tree.isDirectory names = true) :
    tree.leadsSomewhere names = true := by
  rw [isDirectory, beq_iff_eq] at inside
  rw [leadsSomewhere, inside]
  rfl

theorem leads_of_file {names : List String} (file : tree.isFile names = true) :
    tree.leadsSomewhere names = true := by
  unfold isFile at file
  split at file
  · rename_i found
    rw [leadsSomewhere, found]
    rfl
  · cases file

theorem is_within_error_iff {root names : List String} {error : ResolveError} :
    tree.isWithin root names = .error error ↔ tree.resolve names = .error error ∨
      ∃ place, tree.resolve names = .ok place ∧ tree.resolve root = .error error := by
  unfold isWithin
  rw [bind_error_iff]
  apply or_congr_right
  apply exists_congr
  intro place
  apply and_congr_right
  intro _
  rw [bind_error_iff, or_iff_left]
  rintro ⟨top, _, fails⟩
  cases fails

end FileTree

namespace LocalSource

variable {source : LocalSource}

/-! Walks. -/

/-- A walk that goes anywhere starts at a directory. -/
theorem root_of_descend {names found : List String}
    (descends : source.descend source.root names = some found) :
    found = source.root ∨ ∃ top, source.tree.resolve source.root = .ok top := by
  cases names with
  | nil => exact .inl (Option.some.inj descends).symm
  | cons name rest =>
      rw [descend] at descends
      split at descends
      · cases descends
      · rename_i accepted
        simp only [Bool.or_eq_true, not_or, Bool.not_eq_true', Bool.not_eq_false] at accepted
        exact .inr (FileTree.resolve_of_found (FileTree.leads_of_directory accepted.2))

theorem locate_error_iff {names : List String} {error : ResolveError} :
    source.locate names = .error error ↔
      ∃ found, source.descend source.root names = some found ∧
        source.tree.resolve found = .error error := by
  unfold locate
  cases descends : source.descend source.root names with
  | none => simp
  | some found =>
      simp only [bind_error_iff, FileTree.is_within_error_iff, Option.some.injEq]
      constructor
      · rintro ((fails | ⟨place, resolves, fails⟩) | ⟨inside, _, fails⟩)
        · exact ⟨found, rfl, fails⟩
        · rcases root_of_descend descends with rfl | ⟨top, rooted⟩
          · rw [resolves] at fails
            cases fails
          · rw [rooted] at fails
            cases fails
        · cases inside <;> cases fails
      · rintro ⟨_, rfl, fails⟩
        exact .inl (.inl fails)

theorem locate_member_error_iff {parts : List String} {member : String} {error : ResolveError} :
    source.locateMember parts member = .error error ↔ source.locate parts = .error error := by
  unfold locateMember
  rw [bind_error_iff, or_iff_left]
  rintro ⟨found, located, fails⟩
  cases found with
  | none => cases fails
  | some directory =>
      dsimp only at fails
      cases listed : source.memberFile? directory member with
      | none =>
          rw [listed] at fails
          cases fails
      | some path =>
          rw [listed] at fails
          obtain ⟨name, named, rfl⟩ := Option.map_eq_some_iff.mp listed
          have suits := List.find?_some named
          obtain ⟨place, resolves⟩ :=
            FileTree.resolve_of_found (FileTree.leads_of_file (Bool.and_eq_true_iff.mp suits).1)
          obtain ⟨_, top, _, rooted, _⟩ :=
            FileTree.is_within_iff.mp (locate_some_iff.mp located).2
          rcases bind_error_iff.mp fails with within | ⟨inside, _, fails⟩
          · rcases FileTree.is_within_error_iff.mp within with fails | ⟨_, _, fails⟩
            · rw [resolves] at fails
              cases fails
            · rw [rooted] at fails
              cases fails
          · cases inside <;> cases fails

/-! Answers. -/

theorem read_at_cases (path : List String) :
    (∃ text, source.readAt path = .ok text) ∨
      ∃ message, source.readAt path = .error (.unavailable message) := by
  unfold readAt
  cases source.tree.read path with
  | error reason => exact .inr ⟨_, rfl⟩
  | ok bytes =>
      dsimp only
      cases readText? bytes with
      | none => exact .inr ⟨_, rfl⟩
      | some text => exact .inl ⟨text, rfl⟩

/-- A request fails like the walk that it begins with; if that does not fail, there is a text or there
is none. -/
theorem serve_cases (request : Request) :
    (∃ error, source.locate request.walked = .error error ∧
      source.toContentSource.serve request = .error error.asSourceError) ∨
    (∃ found, source.locate request.walked = .ok found) ∧
      ((∃ text, source.toContentSource.serve request = .ok text) ∨
        ∃ message, source.toContentSource.serve request = .error (.unavailable message)) := by
  cases request with
  | stream path =>
      simp only [toContentSource, serveStream, Request.walked]
      rw [← streamNames]
      cases source.locate (streamNames path) with
      | error error => exact .inl ⟨error, rfl, rfl⟩
      | ok found =>
          refine .inr ⟨⟨found, rfl⟩, ?_⟩
          dsimp only
          cases found.filter source.tree.isFile with
          | none => exact .inr ⟨_, rfl⟩
          | some names => exact read_at_cases names
  | member address =>
      simp only [toContentSource, serveMember, Request.walked]
      generalize (address.group.filter fun name => !name.isEmpty).toList ++
        [address.library, address.file] = parts
      cases located : source.locateMember parts address.member with
      | error error => exact .inl ⟨error, locate_member_error_iff.mp located, rfl⟩
      | ok found =>
          refine .inr ⟨?_, ?_⟩
          · cases walks : source.locate parts with
            | error error =>
                rw [locate_member_error_iff.mpr walks] at located
                cases located
            | ok place => exact ⟨place, rfl⟩
          · cases found with
            | none => exact .inr ⟨_, rfl⟩
            | some path => exact read_at_cases path

theorem serve_loop_free_iff {request : Request} :
    ((∃ text, source.toContentSource.serve request = .ok text) ∨
      ∃ message, source.toContentSource.serve request = .error (.unavailable message)) ↔
        ∀ loop, source.locate request.walked ≠ .error (.linkLoop loop) := by
  rcases source.serve_cases request with ⟨error, located, fails⟩ | ⟨⟨found, located⟩, answers⟩
  · rw [located, fails]
    cases error <;> simp [ResolveError.asSourceError]
  · rw [located]
    simp [answers]

section Whole

variable (whole : ∀ entry ∈ source.tree.entries, hasNull entry.1 = false)
  (rooted : hasNull source.root = false)
include whole rooted

end Whole

end LocalSource

end RpgSymbols
