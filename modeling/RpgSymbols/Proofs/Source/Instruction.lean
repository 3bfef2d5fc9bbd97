import RpgSymbols.Source.Assembler

/-!
Lines as the assembler reads them. A line either carries an instruction, that is an operation and
the words behind it, or it is inert. The state at a line of a file depends on the lines before it
and on the files before that file, and on nothing else.
-/

namespace RpgSymbols

open Text

/-- The operation of a line and the words behind the one that names it. -/
def instruction? (raw : String) : Option (Operation × List String) :=
  (Statement.ofLine? raw).bind fun statement =>
    statement.operation?.map fun operation => (operation, statement.others)

/-- A line is inert when it has no word before its first semicolon, or when its first word names
no operation. -/
def Inert (raw : String) : Prop := instruction? raw = none

instance (raw : String) : Decidable (Inert raw) := inferInstanceAs (Decidable (_ = none))

/-- What follows the two slashes of a comment. -/
def afterMarker? : List Char → Option (List Char)
  | '/' :: '/' :: text => some text
  | _ => none

theorem after_marker_cases (chars : List Char) :
    (∃ text, chars = '/' :: '/' :: text ∧ afterMarker? chars = some text) ∨
      ((∀ text, chars ≠ '/' :: '/' :: text) ∧ afterMarker? chars = none) := by
  unfold afterMarker?
  split
  · exact .inl ⟨_, rfl, rfl⟩
  · rename_i plain
    exact .inr ⟨plain, rfl⟩

def comment? (raw : String) : Option String :=
  (Statement.ofLine? raw).bind fun statement =>
    (afterMarker? statement.line.toList).map String.ofList

/-- The words of a line that may declare a parameter: it is neither a comment nor a directive. A
leading `DCL-` word does not count. -/
def parameterLine? (raw : String) : Option (List String) :=
  (Statement.ofLine? raw).bind fun statement =>
    if (afterMarker? statement.line.toList).isSome || startsWith (upper statement.first) "/" then
      none
    else some (ProcedureDraft.parameterWords statement.first statement.others)

theorem parameter_line_iff (raw : String) (words : List String) :
    parameterLine? raw = some words ↔ ∃ statement, Statement.ofLine? raw = some statement ∧
      afterMarker? statement.line.toList = none ∧
      startsWith (upper statement.first) "/" = false ∧
      ProcedureDraft.parameterWords statement.first statement.others = words := by
  unfold parameterLine?
  rw [Option.bind_eq_some_iff]
  refine exists_congr fun statement => and_congr_right fun _ => ?_
  cases afterMarker? statement.line.toList <;>
    cases startsWith (upper statement.first) "/" <;> simp

namespace Assembler

theorem feed_line_of_instruction {raw : String} {operation : Operation} {others : List String}
    (reads : instruction? raw = some (operation, others)) (state : Assembler)
    (position : Position) :
    state.feedLine position raw = state.perform operation others position := by
  obtain ⟨statement, written, named⟩ := Option.bind_eq_some_iff.mp reads
  obtain ⟨found, operates, same⟩ := Option.map_eq_some_iff.mp named
  cases same
  unfold feedLine
  simp only [written, step, operates]

/-- A line without an operation is a comment, or else speaks to an interface that is being read. -/
theorem feed_line_of_inert {raw : String} {statement : Statement} (inert : Inert raw)
    (written : Statement.ofLine? raw = some statement) (state : Assembler)
    (position : Position) :
    state.feedLine position raw =
      match afterMarker? statement.line.toList with
      | some text =>
          if state.docs.active then { state with docs := state.docs.feed (String.ofList text) }
          else state
      | none =>
          match state.current with
          | some (.procedure draft) =>
              if draft.reading && !startsWith (upper statement.first) "/" then
                let words := ProcedureDraft.parameterWords statement.first statement.others
                { state with current := some (.procedure (draft.addParameter words position)) }
              else state
          | _ => state := by
  have silent : statement.operation? = none := by
    simpa [Inert, instruction?, written] using inert
  unfold feedLine
  simp only [written, step, silent]
  unfold onOther
  rcases after_marker_cases statement.line.toList with ⟨text, spelled, marked⟩ | ⟨plain, unmarked⟩
  · rw [marked, spelled]
    rfl
  · rw [unmarked]
    split
    · rename_i text spelled
      exact absurd spelled (plain text)
    · rfl

theorem feed_line_of_comment {raw text : String} (inert : Inert raw)
    (worded : comment? raw = some text) (state : Assembler) (position : Position) :
    state.feedLine position raw =
      if state.docs.active then { state with docs := state.docs.feed text } else state := by
  obtain ⟨statement, written, marked⟩ := Option.bind_eq_some_iff.mp worded
  obtain ⟨letters, spelled, rfl⟩ := Option.map_eq_some_iff.mp marked
  rw [feed_line_of_inert inert written, spelled]

theorem feed_line_of_parameter {raw : String} {words : List String} (inert : Inert raw)
    (worded : parameterLine? raw = some words) (state : Assembler) (position : Position) :
    state.feedLine position raw =
      match state.current with
      | some (.procedure draft) =>
          if draft.reading then
            { state with current := some (.procedure (draft.addParameter words position)) }
          else state
      | _ => state := by
  obtain ⟨statement, written, unmarked, noDirective, rfl⟩ := (parameter_line_iff raw words).mp worded
  rw [feed_line_of_inert inert written, unmarked, noDirective]
  simp only [Bool.not_false, Bool.and_true]

/-- A directive, or a line without a word, has no effect. -/
theorem feed_line_of_silence {raw : String} (inert : Inert raw) (noComment : comment? raw = none)
    (noParameter : parameterLine? raw = none) (state : Assembler) (position : Position) :
    state.feedLine position raw = state := by
  cases written : Statement.ofLine? raw with
  | none =>
      unfold feedLine
      rw [written]
  | some statement =>
      have unmarked : afterMarker? statement.line.toList = none := by
        simpa [comment?, written] using noComment
      have directive : startsWith (upper statement.first) "/" = true := by
        simpa [parameterLine?, written, unmarked] using noParameter
      rw [feed_line_of_inert inert written, unmarked, directive]
      simp only [Bool.not_true, Bool.and_false]
      cases state.current with
      | none => rfl
      | some draft => cases draft <;> rfl

theorem feed_lines_cons (path : String) (state : Assembler) (number : Nat) (line : String)
    (rest : List String) :
    feedLines path state number (line :: rest) =
      feedLines path (state.feedLine ⟨path, number⟩ line) (number + 1) rest := by
  -- Without this step the two states are compared, and they are far apart.
  delta feedLines
  rfl

theorem feed_lines_append (path : String) (state : Assembler) (number : Nat)
    (first second : List String) :
    feedLines path state number (first ++ second) =
      feedLines path (feedLines path state number first) (number + first.length) second := by
  induction first generalizing state number with
  | nil => rfl
  | cons line rest induction =>
      rw [List.cons_append, feed_lines_cons, feed_lines_cons, induction, List.length_cons,
        Nat.add_assoc, Nat.add_comm 1]

def feedFiles (state : Assembler) (files : List (String × List String)) : Assembler :=
  files.foldl (fun state file => state.feedFile file.1 file.2) state

/-- The state before line `number` of a file that is read behind the `earlier` ones. -/
def atLine (earlier : List (String × List String)) (path : String) (lines : List String)
    (number : Nat) : Assembler :=
  feedLines path (feedFiles {} earlier).beginFile 0 (lines.take number)

theorem at_line_zero (earlier : List (String × List String)) (path : String)
    (lines : List String) : atLine earlier path lines 0 = (feedFiles {} earlier).beginFile := by
  rfl

theorem at_line_succ {lines : List String} {number : Nat} {raw : String}
    (written : lines[number]? = some raw) (earlier : List (String × List String))
    (path : String) :
    atLine earlier path lines (number + 1) =
      (atLine earlier path lines number).feedLine ⟨path, number⟩ raw := by
  obtain ⟨bound, same⟩ := List.getElem?_eq_some_iff.mp written
  have counted : (lines.take number).length = number :=
    List.length_take_of_le (Nat.le_of_lt bound)
  rw [atLine, List.take_succ_eq_append_getElem bound, feed_lines_append, same, counted,
    Nat.zero_add, feed_lines_cons]
  rfl

theorem at_line_append (earlier : List (String × List String)) (path : String)
    (lines rest : List String) (number : Nat) (bound : number ≤ lines.length) :
    atLine earlier path (lines ++ rest) number = atLine earlier path lines number := by
  rw [atLine, List.take_append_of_le_length bound, atLine]

theorem at_line_length (earlier : List (String × List String)) (path : String)
    (lines : List String) :
    atLine earlier path lines lines.length =
      (feedFiles {} earlier).feedFile path lines := by
  rw [atLine, List.take_length, feedFile]

end Assembler

theorem assemble_single (path : String) (lines : List String) :
    assemble [(path, lines)] = (Assembler.atLine [] path lines lines.length).finish := by
  rw [Assembler.at_line_length]
  rfl

end RpgSymbols
