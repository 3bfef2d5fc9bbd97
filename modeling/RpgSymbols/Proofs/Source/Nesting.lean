import RpgSymbols.Proofs.Source.Instruction

/-!
Nesting of source lines. Five constructs are opened by one line and closed by another; a
declaration that is whole on its line is no construct. A file is properly nested when every closing
line ends the construct that was opened last, and every construct is ended.
-/

namespace RpgSymbols

open Text

inductive Construct where
  | dataStructure
  | prototype
  | interface
  | procedure
  | subroutine
  deriving DecidableEq, Repr

/-- A construct that is not ended yet: the number of its opening line and the words behind the
operation there. -/
structure Scope where
  construct : Construct
  line : Nat
  words : List String
  deriving DecidableEq, Repr

/-- The construct that an instruction opens. Keywords follow the name, and one of them may end the
declaration on its line. -/
def Operation.opens? (operation : Operation) (others : List String) : Option Construct :=
  let keywords := others.tail.map upper
  match operation with
  | .openStructure => if endsOnItsLine "DCL-DS" keywords then none else some .dataStructure
  | .openPrototype => if endsOnItsLine "DCL-PR" keywords then none else some .prototype
  | .openInterface => if endsOnItsLine "DCL-PI" keywords then none else some .interface
  | .openProcedure => some .procedure
  | .openSubroutine => some .subroutine
  | _ => none

def Operation.closes? : Operation → Option Construct
  | .closeStructure => some .dataStructure
  | .closePrototype => some .prototype
  | .closeInterface => some .interface
  | .closeProcedure => some .procedure
  | .closeSubroutine => some .subroutine
  | _ => none

/-- The scopes after a line, innermost first. Absent when the line closes a construct that is not
the innermost one. -/
def nestLine (number : Nat) (raw : String) (scopes : List Scope) : Option (List Scope) :=
  match instruction? raw with
  | none => some scopes
  | some (operation, others) =>
      match operation.opens? others, operation.closes?, scopes with
      | some construct, _, _ => some (⟨construct, number, others⟩ :: scopes)
      | none, none, _ => some scopes
      | none, some construct, scope :: outer =>
          if scope.construct = construct then some outer else none
      | none, some _, [] => none

def nest : Nat → List String → List Scope → Option (List Scope)
  | _, [], scopes => some scopes
  | number, line :: rest, scopes => (nestLine number line scopes).bind (nest (number + 1) rest)

/-- Every construct is ended, and none before those inside it. -/
def ProperlyNested (lines : List String) : Prop := nest 0 lines [] = some []

instance (lines : List String) : Decidable (ProperlyNested lines) :=
  inferInstanceAs (Decidable (_ = _))

/-- Line `number` stands in the construct of `scope`: behind its opening line, and not behind the
line that closes it. -/
def Inside (lines : List String) (number : Nat) (scope : Scope) : Prop :=
  ∃ scopes, nest 0 (lines.take number) [] = some scopes ∧ scope ∈ scopes

theorem nest_append (number : Nat) (first second : List String) (scopes : List Scope) :
    nest number (first ++ second) scopes =
      (nest number first scopes).bind (nest (number + first.length) second) := by
  induction first generalizing number scopes with
  | nil => rfl
  | cons line rest induction =>
      simp only [List.cons_append, nest, List.length_cons, Option.bind_assoc]
      congr 1
      funext inner
      rw [induction, Nat.add_assoc, Nat.add_comm 1]

def shape (scopes : List Scope) : List Construct := scopes.map Scope.construct

/-- Whether constructs match does not depend on where the lines stand. -/
theorem nest_line_shape (left right : Nat) (raw : String) (first second : List Scope)
    (same : shape first = shape second) :
    (nestLine left raw first).map shape = (nestLine right raw second).map shape := by
  unfold nestLine
  cases instruction? raw with
  | none => simpa using same
  | some read =>
      obtain ⟨operation, others⟩ := read
      cases opened : operation.opens? others with
      | some construct => simpa [opened, shape] using same
      | none =>
          cases closed : operation.closes? with
          | none => simpa [opened, closed] using same
          | some construct =>
              cases first with
              | nil =>
                  cases second with
                  | nil => simp [opened, closed]
                  | cons scope outer => simp [shape] at same
              | cons scope outer =>
                  cases second with
                  | nil => simp [shape] at same
                  | cons other rest =>
                      obtain ⟨head, tail⟩ := List.cons.inj same
                      simp only [opened, closed, head]
                      split
                      · exact congrArg some tail
                      · rfl

theorem nest_shape (left right : Nat) (lines : List String) (first second : List Scope)
    (same : shape first = shape second) :
    (nest left lines first).map shape = (nest right lines second).map shape := by
  induction lines generalizing left right first second with
  | nil => exact congrArg some same
  | cons line rest induction =>
      have matched := nest_line_shape left right line first second same
      simp only [nest]
      cases one : nestLine left line first with
      | none =>
          rw [one, Option.map_none] at matched
          rw [Option.map_eq_none_iff.mp matched.symm]
          rfl
      | some inner =>
          rw [one, Option.map_some] at matched
          obtain ⟨other, two, equal⟩ := Option.map_eq_some_iff.mp matched.symm
          rw [two]
          exact induction _ _ _ _ equal.symm

/-- A line that opens and closes nothing may be put anywhere. -/
theorem properly_nested_insert (lines : List String) (number : Nat) (raw : String)
    (neutral : ∀ place scopes, nestLine place raw scopes = some scopes)
    (nested : ProperlyNested lines) :
    ProperlyNested (lines.take number ++ raw :: lines.drop number) := by
  have whole : nest 0 (lines.take number ++ lines.drop number) [] = some [] := by
    rw [List.take_append_drop]
    exact nested
  rw [nest_append] at whole
  obtain ⟨scopes, before, behind⟩ := Option.bind_eq_some_iff.mp whole
  rw [ProperlyNested, nest_append, before, Option.bind_some, nest, neutral, Option.bind_some]
  have moved := nest_shape (0 + (lines.take number).length + 1) (0 + (lines.take number).length)
    (lines.drop number) scopes scopes rfl
  rw [behind] at moved
  obtain ⟨rest, ended, empty⟩ := Option.map_eq_some_iff.mp moved
  rw [ended, List.map_eq_nil_iff.mp empty]

theorem scope_of_nest_line (number : Nat) (raw : String) (outer scopes : List Scope)
    (nested : nestLine number raw outer = some scopes) (scope : Scope) (member : scope ∈ scopes) :
    scope ∈ outer ∨ ∃ operation, scope.line = number ∧
      instruction? raw = some (operation, scope.words) ∧
      operation.opens? scope.words = some scope.construct := by
  unfold nestLine at nested
  split at nested
  · cases nested
    exact .inl member
  · rename_i operation others reads
    split at nested
    · rename_i construct opened
      cases nested
      rcases List.mem_cons.mp member with rfl | old
      · exact .inr ⟨operation, rfl, reads, opened⟩
      · exact .inl old
    · cases nested
      exact .inl member
    · split at nested
      · cases nested
        exact .inl (List.mem_cons_of_mem _ member)
      · cases nested
    · cases nested

-- The induction moves the start along, so the place is counted from there.
theorem scope_of_nest (start : Nat) (lines : List String) (outer scopes : List Scope)
    (nested : nest start lines outer = some scopes) (scope : Scope) (member : scope ∈ scopes) :
    scope ∈ outer ∨ ∃ index raw operation, lines[index]? = some raw ∧ scope.line = start + index ∧
      instruction? raw = some (operation, scope.words) ∧
      operation.opens? scope.words = some scope.construct := by
  induction lines generalizing start outer with
  | nil =>
      cases nested
      exact .inl member
  | cons line rest induction =>
      obtain ⟨inner, first, behind⟩ := Option.bind_eq_some_iff.mp nested
      rcases induction (start + 1) inner behind with old | ⟨index, raw, operation, written, place, reads⟩
      · rcases scope_of_nest_line start line outer inner first scope old with
          before | ⟨operation, place, reads⟩
        · exact .inl before
        · exact .inr ⟨0, line, operation, rfl, place, reads⟩
      · exact .inr ⟨index + 1, raw, operation, by simpa using written, by omega, reads⟩

theorem inside_opening (lines : List String) (number : Nat) (scope : Scope)
    (inside : Inside lines number scope) :
    scope.line < number ∧ ∃ raw operation, lines[scope.line]? = some raw ∧
      instruction? raw = some (operation, scope.words) ∧
      operation.opens? scope.words = some scope.construct := by
  obtain ⟨scopes, nested, member⟩ := inside
  rcases scope_of_nest 0 _ [] scopes nested scope member with
    nowhere | ⟨index, raw, operation, written, place, reads⟩
  · cases nowhere
  · rw [Nat.zero_add] at place
    subst place
    rw [List.getElem?_take] at written
    split at written
    · exact ⟨‹_›, raw, operation, written, reads⟩
    · cases written

theorem inside_bound (lines : List String) (nested : ProperlyNested lines) (number : Nat)
    (scope : Scope) (inside : Inside lines number scope) : number < lines.length := by
  apply Nat.lt_of_not_le
  intro beyond
  obtain ⟨scopes, ended, member⟩ := inside
  rw [List.take_of_length_le beyond, nested] at ended
  cases ended
  cases member

end RpgSymbols
