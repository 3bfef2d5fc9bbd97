import RpgSymbols.Include.Directive
import RpgSymbols.Proofs.Attempt.Access
import RpgSymbols.Proofs.Text.CaseCutting

/-!
Resolving with every access written out: the parts of a path and of a target are read by their
places. All of them are there, so resolving fails for no reason but that a target has no address.
-/

namespace RpgSymbols

open Text SlashPath

namespace Attempt

def inherited (path : String) : Attempt (Option String × Option String × String) := do
  let parts := split '/' path
  if parts.length = 4 then
    let library ← item parts 1
    let file ← item parts 2
    return (none, some library, file)
  else if parts.length = 5 then
    let group ← item parts 1
    let library ← item parts 2
    let file ← item parts 3
    return (some group, some library, file)
  else return (none, none, defaultSourceFile)

def fileAndMember (ownFile : String) (parts : List String) : Attempt (String × String) :=
  if parts.length = 2 then both parts
  else do
    let member ← lastItem parts
    return (ownFile, member)

def libraryOf (own : Option String) (parts : List String) : Attempt (Option String) :=
  if parts.length = 2 then do
    let written ← item parts 0
    return some written
  else .ok own

def memberName (written : String) : Attempt String :=
  if written.toList.contains '.' then beforeLast '.' written else .ok written

def resolveMember (path target : String) : Attempt Resolved := do
  let libraryParts := split '/' target
  let last ← lastItem libraryParts
  let (group, ownLibrary, ownFile) ← inherited path
  let (file, written) ← fileAndMember ownFile (split ',' last)
  let library ← libraryOf ownLibrary libraryParts
  let member ← memberName written
  let library := library.getD ""
  if library.isEmpty || file.isEmpty || member.isEmpty then
    .error (.unresolvable (.incompleteMember target path))
  else
    let group := group.filter fun name => !name.isEmpty
    return ⟨upper (memberPath group library file member), .member,
      some ⟨group.map upper, upper library, upper file, upper member⟩⟩

def resolve (home : String) (document : Document) (target : String) : Attempt Resolved :=
  let target := trim target
  if target.isEmpty then .error (.unresolvable .emptyTarget)
  else
    match Addressing.ofName? document.scheme with
    | some .streamFile => (resolveStream home target).mapError .unresolvable
    | some .member => resolveMember document.path target
    | none => .error (.unresolvable (.unsupportedScheme document.scheme))

def canonicalPath (home : String) (document : Document) : Attempt String :=
  if document.scheme = Addressing.member.name then do
    let resolved ← resolve home document (lastPart document.path)
    return resolved.canonicalPath
  else .ok (upper document.path)

def includeTarget (line : String) : Attempt (Option String) := do
  let found := words line
  if found.length < 2 then return none
  let first ← item found 0
  if !includeWords.contains (upper first) then return none
  let target ← item found 1
  return some target

def includeTargets : List String → Attempt (List String)
  | [] => .ok []
  | line :: rest => do
      let target ← includeTarget line
      let targets ← includeTargets rest
      return target.toList ++ targets

theorem inherited_ok (path : String) : inherited path = .ok (RpgSymbols.inherited path) := by
  unfold inherited RpgSymbols.inherited
  generalize split '/' path = parts
  rcases parts with _ | ⟨_, _ | ⟨_, _ | ⟨_, _ | ⟨_, _ | ⟨_, _ | ⟨_, _⟩⟩⟩⟩⟩⟩
  · rfl
  · rfl
  · rfl
  · rfl
  · rfl
  · rfl
  · simp

theorem split_ne_nil (separator : Char) (text : String) : split separator text ≠ [] := by
  rw [split, Ne, List.map_eq_nil_iff]
  exact pieces_ne_nil _ _

theorem last_ok {parts : List String} (some : parts ≠ []) :
    lastItem parts = .ok (lastOrEmpty parts) := by
  have found := List.getLast?_eq_some_getLast some
  rw [last_of_get found, lastOrEmpty, found, Option.getD_some]

theorem file_and_member_ok (ownFile text : String) :
    fileAndMember ownFile (split ',' text) =
      .ok (match split ',' text with
        | [file, member] => (file, member)
        | parts => (ownFile, lastOrEmpty parts)) := by
  have some := split_ne_nil ',' text
  unfold fileAndMember
  rw [last_ok some]
  generalize split ',' text = parts
  rcases parts with _ | ⟨_, _ | ⟨_, _ | ⟨_, _⟩⟩⟩
  · rfl
  · rfl
  · rfl
  · simp

theorem library_ok (own : Option String) (parts : List String) :
    libraryOf own parts =
      .ok (match parts with
        | [written, _] => some written
        | _ => own) := by
  unfold libraryOf
  rcases parts with _ | ⟨_, _ | ⟨_, _ | ⟨_, _⟩⟩⟩
  · rfl
  · rfl
  · rfl
  · simp

theorem member_name_ok (written : String) :
    memberName written = .ok (withoutExtension written) := by
  unfold memberName beforeLast withoutExtension
  dsimp only
  by_cases dotted : written.toList.contains '.' = true
  · rw [if_pos dotted, if_pos dotted, if_pos dotted]
  · rw [if_neg dotted, if_neg dotted]

theorem resolve_member_ok (path target : String) :
    resolveMember path target = (RpgSymbols.resolveMember path target).mapError .unresolvable := by
  unfold resolveMember RpgSymbols.resolveMember
  simp only [last_ok (split_ne_nil '/' target), inherited_ok, bind_ok, library_ok,
    file_and_member_ok, member_name_ok, apply_ite (Except.mapError Fault.unresolvable)]
  generalize split '/' target = libraryParts
  generalize split ',' (lastOrEmpty libraryParts) = memberParts
  rfl

/-- No fault but the lack of an address. -/
theorem resolve_ok (home : String) (document : Document) (target : String) :
    resolve home document target =
      (RpgSymbols.resolve home document target).mapError .unresolvable := by
  unfold resolve RpgSymbols.resolve
  dsimp only
  generalize trim target = written
  split
  · rfl
  · cases Addressing.ofName? document.scheme with
    | none => rfl
    | some addressing =>
        cases addressing with
        | member => exact resolve_member_ok document.path written
        | streamFile => rfl

theorem canonical_path_ok (home : String) (document : Document) :
    canonicalPath home document =
      (RpgSymbols.canonicalPath home document).mapError .unresolvable := by
  unfold canonicalPath RpgSymbols.canonicalPath
  rw [resolve_ok]
  split
  · cases RpgSymbols.resolve home document (lastPart document.path) with
    | error reason => rfl
    | ok resolved => rfl
  · rfl

theorem include_target_ok (line : String) : includeTarget line = .ok (includeTarget? line) := by
  unfold includeTarget includeTarget?
  rcases words line with _ | ⟨first, _ | ⟨target, rest⟩⟩
  · rfl
  · rfl
  · have enough : ¬ (first :: target :: rest).length < 2 := by simp
    dsimp only
    rw [if_neg enough, item_head, bind_ok, item_tail, item_head, bind_ok]
    cases includeWords.contains (upper first) with
    | false => rfl
    | true => rfl

theorem include_targets_ok (lines : List String) :
    includeTargets lines = .ok (lines.filterMap includeTarget?) := by
  induction lines with
  | nil => rfl
  | cons line rest induction =>
      rw [includeTargets, include_target_ok, induction, List.filterMap_cons]
      cases includeTarget? line with
      | none => rfl
      | some target => rfl

end Attempt

end RpgSymbols
