import Mathlib.Data.List.Induction
import RpgSymbols.Proofs.Source.Growth
import RpgSymbols.Proofs.Source.Storing

/-!
What a model repeats of its source. A declaration stands at the line that opens it and has the name
and the keywords written there. Two things come from further down: the keywords of a procedure, if
it has an interface, and its parameters. The lines read so far carry the argument, since a draft
that is open or suspended is already written in them.
-/

namespace RpgSymbols

open Text

/-- The first word of the line stands for no operation, and no slash begins it. -/
def MayDeclareParameter (raw : String) : Prop :=
  ∃ statement, Statement.ofLine? raw = some statement ∧ statement.operation? = none ∧
    startsWith (upper statement.first) "//" = false ∧ startsWith (upper statement.first) "/" = false

/-- Parameters stand behind the line `opener`, each further down than the one before it. -/
def ParametersBehind (path : String) (lines : List String) (opener : Nat)
    (parameters : List Declaration) : Prop :=
  ∃ numbers : List Nat,
    parameters.map Declaration.position = numbers.map (fun number => some ⟨path, number⟩) ∧
    (opener :: numbers).Pairwise (· < ·) ∧
    ∀ number ∈ numbers, ∃ raw, lines[number]? = some raw ∧ MayDeclareParameter raw

/-- The keywords of an interface below line `number`, without the word that ends it. -/
def InterfaceBelow (lines : List String) (number : Nat) (shown : List String) : Prop :=
  ∃ later raw others, number < later ∧ lines[later]? = some raw ∧
    instruction? raw = some (.openInterface, others) ∧
    shown = (others.drop 1).filter fun word => upper word != "END-PI"

/-- The keywords that an operation on line `number` gives its declaration, when `display` stands
behind the name. Those of an interface may take the place of a procedure's own. -/
def KeywordsFrom (operation : Operation) (lines : List String) (number : Nat)
    (display shown : List String) : Prop :=
  match operation with
  | .openSubroutine => shown = []
  | .openPrototype | .openProcedure =>
      shown = display ∨ InterfaceBelow lines number shown
  | _ => shown = display

/-- Line `number` carries the operation and opens the declaration. -/
structure Declaration.WrittenAt (declaration : Declaration) (operation : Operation)
    (path : String) (lines : List String) (number : Nat) (display : List String) : Prop where
  position : declaration.position = some ⟨path, number⟩
  opener : ∃ raw, lines[number]? = some raw ∧
    instruction? raw = some (operation, declaration.name :: display)
  plain : operation = .standalone ∨ operation = .openStructure →
    templateKeyword ∉ display.map upper
  shown : KeywordsFrom operation lines number display declaration.displayKeywords
  keywords : declaration.keywords = declaration.displayKeywords.map upper
  parameters : ParametersBehind path lines number declaration.subItems

def Declaration.WrittenIn (declaration : Declaration) (operation : Operation) (path : String)
    (lines : List String) : Prop :=
  ∃ number display, declaration.WrittenAt operation path lines number display

/-- A declaration of the kind is written in one of the files, by the operation. -/
def Declaration.WrittenAmong (declaration : Declaration) (kind : Kind) (operation : Operation)
    (files : List (String × List String)) : Prop :=
  declaration.kind = kind ∧ ∃ file ∈ files, declaration.WrittenIn operation file.1 file.2

/-- Every declaration of the model is written in the files, by an operation of its own kind. -/
structure Model.WrittenAmong (model : Model) (files : List (String × List String)) : Prop where
  constants : ∀ declaration ∈ model.constants,
    declaration.WrittenAmong .constant .constant files
  standalones : ∀ declaration ∈ model.standalones,
    declaration.WrittenAmong .standalone .standalone files
  structures : ∀ declaration ∈ model.structures,
    declaration.WrittenAmong .dataStructure .openStructure files
  procedures : ∀ declaration ∈ model.procedures,
    declaration.WrittenAmong .procedure .openPrototype files ∨
      declaration.WrittenAmong .procedure .openProcedure files
  subroutines : ∀ declaration ∈ model.subroutines,
    declaration.WrittenAmong .subroutine .openSubroutine files

theorem no_comment_of_no_slash (word : String) (plain : startsWith word "/" = false) :
    startsWith word "//" = false := by
  unfold startsWith at plain ⊢
  cases letters : word.toList with
  | nil => rfl
  | cons letter rest =>
      rw [letters] at plain
      change ('/' == letter && true) = false at plain
      change ('/' == letter && ['/'].isPrefixOf rest) = false
      rw [Bool.and_true] at plain
      rw [plain, Bool.false_and]

theorem may_declare_parameter {raw : String} {words : List String} (inert : Inert raw)
    (worded : parameterLine? raw = some words) : MayDeclareParameter raw := by
  obtain ⟨statement, written, _, plain, _⟩ := (parameter_line_iff raw words).mp worded
  have silent : statement.operation? = none := by
    simpa [Inert, instruction?, written] using inert
  exact ⟨statement, written, silent, no_comment_of_no_slash _ plain, plain⟩

/-! More lines behind those that were read change nothing of what is written in them. -/

section Reading

variable {path : String} {read : List String} {raw : String}

theorem line_of_read {number : Nat} {line : String} (written : read[number]? = some line)
    (more : List String) : (read ++ more)[number]? = some line := by
  obtain ⟨bound, _⟩ := List.getElem?_eq_some_iff.mp written
  rw [List.getElem?_append_left bound]
  exact written

theorem line_just_read (read : List String) (raw : String) :
    (read ++ [raw])[read.length]? = some raw :=
  List.getElem?_concat_length

theorem parameters_mono {opener : Nat} {parameters : List Declaration}
    (behind : ParametersBehind path read opener parameters) (more : List String) :
    ParametersBehind path (read ++ more) opener parameters := by
  obtain ⟨numbers, placed, increasing, lines⟩ := behind
  refine ⟨numbers, placed, increasing, ?_⟩
  intro number listed
  obtain ⟨line, written, declares⟩ := lines number listed
  exact ⟨line, line_of_read written more, declares⟩

theorem keywords_mono {operation : Operation} {number : Nat} {display shown : List String}
    (gives : KeywordsFrom operation read number display shown) (more : List String) :
    KeywordsFrom operation (read ++ more) number display shown := by
  have interface : InterfaceBelow read number shown →
      InterfaceBelow (read ++ more) number shown := by
    rintro ⟨later, line, others, below, written, rest⟩
    exact ⟨later, line, others, below, line_of_read written more, rest⟩
  cases operation with
  | openPrototype => exact gives.imp id interface
  | openProcedure => exact gives.imp id interface
  | _ => exact gives

theorem written_at_mono {declaration : Declaration} {operation : Operation} {number : Nat}
    {display : List String}
    (written : declaration.WrittenAt operation path read number display) (more : List String) :
    declaration.WrittenAt operation path (read ++ more) number display := by
  obtain ⟨line, found, reads⟩ := written.opener
  exact { written with
    opener := ⟨line, line_of_read found more, reads⟩
    shown := keywords_mono written.shown more
    parameters := parameters_mono written.parameters more }

theorem written_mono {declaration : Declaration} {operation : Operation}
    (written : declaration.WrittenIn operation path read) (more : List String) :
    declaration.WrittenIn operation path (read ++ more) := by
  obtain ⟨number, display, opened⟩ := written
  exact ⟨number, display, written_at_mono opened more⟩

/-- A heading is written on the line that was just read. -/
theorem written_heading (kind : Kind) (operation : Operation) {name : String}
    {display shown : List String} {docs : Documentation}
    (reads : instruction? raw = some (operation, name :: display))
    (plain : operation = .standalone ∨ operation = .openStructure →
      templateKeyword ∉ display.map upper)
    (gives : KeywordsFrom operation (read ++ [raw]) read.length display shown) :
    ((Heading.of name shown docs ⟨path, read.length⟩).declare kind []).WrittenIn operation path
      (read ++ [raw]) := by
  refine ⟨read.length, display, rfl, ?_, plain, gives, rfl, ?_⟩
  · exact ⟨raw, line_just_read read raw, reads⟩
  · exact ⟨[], rfl, List.pairwise_singleton _ _, by simp⟩

def ProcedureForm.operation : ProcedureForm → Operation
  | .prototype => .openPrototype
  | .definition => .openProcedure

theorem keywords_of_form (form : ProcedureForm) (lines : List String) (number : Nat)
    (display shown : List String) :
    KeywordsFrom form.operation lines number display shown ↔
      shown = display ∨ InterfaceBelow lines number shown := by
  cases form <;> rfl

theorem opener_in_read {declaration : Declaration} {operation : Operation} {number : Nat}
    {display : List String}
    (written : declaration.WrittenAt operation path read number display) : number < read.length := by
  obtain ⟨line, found, _⟩ := written.opener
  exact (List.getElem?_eq_some_iff.mp found).1

/-- An interface replaces the keywords of its procedure. -/
theorem written_interface {draft : ProcedureDraft} {others : List String} {oneLine : Bool}
    (reads : instruction? raw = some (.openInterface, others))
    (written : draft.finish.WrittenIn draft.form.operation path read) :
    (draft.beginInterface (others.drop 1) oneLine).finish.WrittenIn draft.form.operation path
      (read ++ [raw]) := by
  obtain ⟨number, display, opened⟩ := written
  have kept := written_at_mono opened [raw]
  refine ⟨number, display, kept.position, kept.opener, kept.plain, ?_, rfl, kept.parameters⟩
  apply (keywords_of_form _ _ _ _ _).mpr
  right
  exact ⟨read.length, raw, others, opener_in_read opened, line_just_read read raw, reads, rfl⟩

/-- A parameter comes behind the opener and behind the parameters before it. -/
theorem parameters_concat {opener : Nat} {parameters : List Declaration}
    (inside : opener < read.length)
    (behind : ParametersBehind path read opener parameters) (declares : MayDeclareParameter raw)
    (added : Declaration) (position : added.position = some ⟨path, read.length⟩) :
    ParametersBehind path (read ++ [raw]) opener (parameters ++ [added]) := by
  obtain ⟨numbers, placed, increasing, lines⟩ := behind
  refine ⟨numbers ++ [read.length], ?_, ?_, ?_⟩
  · simp only [List.map_append, placed, List.map_singleton, position]
  · rw [← List.cons_append, List.pairwise_append]
    refine ⟨increasing, List.pairwise_singleton _ _, ?_⟩
    intro number listed last same
    rw [List.mem_singleton.mp same]
    rcases List.mem_cons.mp listed with rfl | earlier
    · exact inside
    · obtain ⟨line, found, _⟩ := lines number earlier
      exact (List.getElem?_eq_some_iff.mp found).1
  · intro number listed
    rcases List.mem_append.mp listed with earlier | last
    · obtain ⟨line, found, named⟩ := lines number earlier
      exact ⟨line, line_of_read found [raw], named⟩
    · rw [List.mem_singleton.mp last]
      exact ⟨raw, line_just_read read raw, declares⟩

theorem written_parameter {draft : ProcedureDraft} {words : List String}
    (declares : MayDeclareParameter raw)
    (written : draft.finish.WrittenIn draft.form.operation path read) :
    (draft.addParameter words ⟨path, read.length⟩).finish.WrittenIn draft.form.operation path
      (read ++ [raw]) := by
  obtain ⟨number, display, opened⟩ := written
  have kept := written_at_mono opened [raw]
  refine ⟨number, display, kept.position, kept.opener, kept.plain, kept.shown, kept.keywords, ?_⟩
  cases words with
  | nil =>
      have same : (draft.addParameter [] ⟨path, read.length⟩).finish.subItems =
          draft.finish.subItems := List.append_nil _
      rw [same]
      exact kept.parameters
  | cons first rest =>
      exact parameters_concat (opener_in_read opened) opened.parameters declares _ rfl

end Reading

/-! The invariant of a run. `base` is a state before the run, `files` is what was read since. -/

def Draft.finish : Draft → Declaration
  | .dataStructure heading => heading.declare .dataStructure []
  | .procedure draft => draft.finish
  | .subroutine heading => heading.declare .subroutine []

def Draft.operation : Draft → Operation
  | .dataStructure _ => .openStructure
  | .procedure draft => draft.form.operation
  | .subroutine _ => .openSubroutine

namespace Assembler

/-- What is gathered was there before, or it is written in the files. A place of the index is
looked at by itself, because its entry may be replaced. -/
structure Gathered (base : Assembler) (files : List (String × List String))
    (state : Assembler) : Prop where
  constants : ∀ declaration ∈ state.constants, declaration ∈ base.constants ∨
    declaration.WrittenAmong .constant .constant files
  standalones : ∀ declaration ∈ state.standalones, declaration ∈ base.standalones ∨
    declaration.WrittenAmong .standalone .standalone files
  structures : ∀ declaration ∈ state.structures, declaration ∈ base.structures ∨
    declaration.WrittenAmong .dataStructure .openStructure files
  procedures : ∀ (place : Nat) (entry : IndexedProcedure),
    state.procedures.entries[place]? = some entry →
    base.procedures.entries[place]? = some entry ∨
      entry.declaration.WrittenAmong .procedure entry.form.operation files
  subroutines : ∀ declaration ∈ state.subroutines, declaration ∈ base.subroutines ∨
    declaration.WrittenAmong .subroutine .openSubroutine files

theorem gathered_finalize {base state : Assembler} {files : List (String × List String)}
    (gathered : Gathered base files state)
    (written : ∀ draft, state.current = some draft →
      ∃ file ∈ files, draft.finish.WrittenIn draft.operation file.1 file.2) :
    Gathered base files state.finalize := by
  cases opened : state.current with
  | none =>
      simp only [finalize, opened]
      exact ⟨gathered.1, gathered.2, gathered.3, gathered.4, gathered.5⟩
  | some draft =>
      have found := written draft opened
      cases draft with
      | dataStructure heading =>
          simp only [finalize, opened]
          exact { gathered with
            structures := forall_mem_concat gathered.structures (.inr ⟨rfl, found⟩) }
      | procedure draft =>
          simp only [finalize, opened]
          refine { gathered with procedures := ?_ }
          intro place entry held
          rcases ProcedureIndex.entry_of_add held with before | rfl
          · exact gathered.procedures place entry before
          · exact .inr ⟨rfl, found⟩
      | subroutine heading =>
          simp only [finalize, opened]
          exact { gathered with
            subroutines := forall_mem_concat gathered.subroutines (.inr ⟨rfl, found⟩) }

/-- Everything gathered, open or suspended is written in the files before and in the lines that
were read of the last one. -/
structure Traced (base : Assembler) (earlier : List (String × List String)) (path : String)
    (read : List String) (state : Assembler) : Prop where
  gathered : Gathered base (earlier ++ [(path, read)]) state
  current : ∀ draft, state.current = some draft →
    draft.finish.WrittenIn draft.operation path read
  suspended : ∀ draft, state.suspended = some draft →
    draft.finish.WrittenIn draft.form.operation path read

theorem written_among_mono {declaration : Declaration} {kind : Kind} {operation : Operation}
    {earlier : List (String × List String)} {path : String} {read : List String}
    (written : declaration.WrittenAmong kind operation (earlier ++ [(path, read)]))
    (more : List String) :
    declaration.WrittenAmong kind operation (earlier ++ [(path, read ++ more)]) := by
  obtain ⟨same, file, listed, found⟩ := written
  refine ⟨same, ?_⟩
  rcases List.mem_append.mp listed with before | last
  · exact ⟨file, List.mem_append_left _ before, found⟩
  · cases List.mem_singleton.mp last
    exact ⟨(path, read ++ more), List.mem_append_right _ (List.mem_singleton_self _),
      written_mono found more⟩

theorem traced_mono {base state : Assembler} {earlier : List (String × List String)}
    {path : String} {read : List String} (traced : Traced base earlier path read state)
    (more : List String) : Traced base earlier path (read ++ more) state := by
  obtain ⟨gathered, current, suspended⟩ := traced
  refine ⟨⟨?_, ?_, ?_, ?_, ?_⟩, ?_, ?_⟩
  · exact fun declaration listed =>
      (gathered.constants declaration listed).imp id fun found => written_among_mono found more
  · exact fun declaration listed =>
      (gathered.standalones declaration listed).imp id fun found => written_among_mono found more
  · exact fun declaration listed =>
      (gathered.structures declaration listed).imp id fun found => written_among_mono found more
  · exact fun place entry held =>
      (gathered.procedures place entry held).imp id fun found => written_among_mono found more
  · exact fun declaration listed =>
      (gathered.subroutines declaration listed).imp id fun found => written_among_mono found more
  · exact fun draft opened => written_mono (current draft opened) more
  · exact fun draft waits => written_mono (suspended draft waits) more

section Steps

variable {base state next : Assembler} {earlier : List (String × List String)} {path : String}
  {read : List String} {raw : String}

theorem traced_open (traced : Traced base earlier path read state)
    (suspended : Option ProcedureDraft) (draft : Draft)
    (waits : ∀ procedure, suspended = some procedure →
      procedure.finish.WrittenIn procedure.form.operation path read)
    (written : draft.finish.WrittenIn draft.operation path read) :
    Traced base earlier path read (openDraft { state with suspended := suspended } draft) := by
  obtain ⟨gathered, _, _⟩ := traced
  refine ⟨⟨gathered.1, gathered.2, gathered.3, gathered.4, gathered.5⟩, ?_, waits⟩
  intro other opened
  cases opened
  exact written

theorem traced_finalize (traced : Traced base earlier path read state) :
    Traced base earlier path read state.finalize := by
  refine ⟨gathered_finalize traced.gathered ?_, ?_, ?_⟩
  · intro draft opened
    exact ⟨(path, read), List.mem_append_right _ (List.mem_singleton_self _),
      traced.current draft opened⟩
  · intro draft opened
    cases opened
  · rw [suspended_finalize]
    exact traced.suspended

theorem traced_effect (traced : Traced base earlier path read state)
    (effect : Effect state ⟨path, read.length⟩ raw next) :
    Traced base earlier path (read ++ [raw]) next := by
  have kept := traced_mono traced [raw]
  have gathered := kept.gathered
  have listed : (path, read ++ [raw]) ∈ earlier ++ [(path, read ++ [raw])] :=
    List.mem_append_right _ (List.mem_singleton_self _)
  cases effect with
  | idle => exact kept
  | marker reads => exact ⟨⟨gathered.1, gathered.2, gathered.3, gathered.4, gathered.5⟩, kept.2, kept.3⟩
  | comment inert worded active =>
      exact ⟨⟨gathered.1, gathered.2, gathered.3, gathered.4, gathered.5⟩, kept.2, kept.3⟩
  | pattern reads declares vacant template =>
      exact ⟨⟨gathered.1, gathered.2, gathered.3, gathered.4, gathered.5⟩, kept.2, kept.3⟩
  | parameter inert worded opened reading =>
      apply traced_open kept state.suspended _ kept.suspended
      exact written_parameter (may_declare_parameter inert worded) (traced.current _ opened)
  | constant reads vacant =>
      refine ⟨{ gathered with
        constants := forall_mem_concat gathered.constants (.inr ⟨rfl, _, listed, ?_⟩) },
        kept.2, kept.3⟩
      exact written_heading .constant .constant reads (by simp) rfl
  | standalone reads vacant plain =>
      refine ⟨{ gathered with
        standalones := forall_mem_concat gathered.standalones (.inr ⟨rfl, _, listed, ?_⟩) },
        kept.2, kept.3⟩
      exact written_heading .standalone .standalone reads (fun _ => plain) rfl
  | structureBegun reads vacant plain lasts =>
      apply traced_open kept state.suspended _ kept.suspended
      exact written_heading .dataStructure .openStructure reads (fun _ => plain) rfl
  | structureLine reads vacant plain ends =>
      apply traced_finalize
      apply traced_open kept state.suspended _ kept.suspended
      exact written_heading .dataStructure .openStructure reads (fun _ => plain) rfl
  | prototypeBegun reads vacant new lasts =>
      apply traced_open kept state.suspended _ kept.suspended
      exact written_heading .procedure .openPrototype reads (by simp) (.inl rfl)
  | prototypeLine reads vacant new ends =>
      apply traced_finalize
      apply traced_open kept state.suspended _ kept.suspended
      exact written_heading .procedure .openPrototype reads (by simp) (.inl rfl)
  | procedureBegun reads =>
      apply traced_open kept none _ (by simp)
      exact written_heading .procedure .openProcedure reads (by simp) (.inl rfl)
  | interfaceBegun reads opened =>
      apply traced_open kept state.suspended _ kept.suspended
      exact written_interface reads (traced.current _ opened)
  | @interfaceEnded draft others reads opened =>
      have written := kept.current (.procedure draft) opened
      exact traced_open kept state.suspended (.procedure { draft with reading := false })
        kept.suspended written
  | @subroutineBegun name display suspended reads new suspends keeps =>
      have waits : ∀ procedure, suspended = some procedure →
          procedure.finish.WrittenIn procedure.form.operation path (read ++ [raw]) := by
        intro procedure same
        by_cases inBody : ∃ draft, state.current = some (.procedure draft)
        · obtain ⟨draft, opened⟩ := inBody
          rw [suspends draft opened] at same
          cases same
          exact kept.current _ opened
        · exact kept.suspended procedure ((keeps (not_exists.mp inBody)).symm.trans same)
      apply traced_open kept suspended _ waits
      exact written_heading .subroutine .openSubroutine reads (by simp) rfl
  | structureEnded reads opened => exact traced_finalize kept
  | procedureEnded reads closes opened => exact traced_finalize kept
  | subroutineEnded reads opened =>
      have stored := (traced_finalize kept).gathered
      refine ⟨⟨stored.1, stored.2, stored.3, stored.4, stored.5⟩, ?_, ?_⟩
      · intro draft resumed
        obtain ⟨procedure, waited, rfl⟩ := Option.map_eq_some_iff.mp resumed
        exact kept.suspended procedure waited
      · intro draft waits
        cases waits

end Steps

theorem feed_lines_concat (path : String) (state : Assembler) (read : List String)
    (raw : String) :
    feedLines path state 0 (read ++ [raw]) =
      (feedLines path state 0 read).feedLine ⟨path, read.length⟩ raw := by
  rw [feed_lines_append, feed_lines_cons, Nat.zero_add]
  rfl

theorem gathered_append {base state : Assembler} {files : List (String × List String)}
    (gathered : Gathered base files state) (more : List (String × List String)) :
    Gathered base (files ++ more) state := by
  have among : ∀ {declaration : Declaration} {kind : Kind} {operation : Operation},
      declaration.WrittenAmong kind operation files →
        declaration.WrittenAmong kind operation (files ++ more) := by
    rintro declaration kind operation ⟨same, file, listed, found⟩
    exact ⟨same, file, List.mem_append_left _ listed, found⟩
  constructor
  · exact fun declaration listed => (gathered.constants declaration listed).imp id among
  · exact fun declaration listed => (gathered.standalones declaration listed).imp id among
  · exact fun declaration listed => (gathered.structures declaration listed).imp id among
  · exact fun place entry held => (gathered.procedures place entry held).imp id among
  · exact fun declaration listed => (gathered.subroutines declaration listed).imp id among

theorem traced_feed_file {base state : Assembler} {earlier : List (String × List String)}
    (gathered : Gathered base earlier state) (path : String) (lines : List String) :
    Traced base earlier path lines (state.feedFile path lines) := by
  induction lines using List.reverseRecOn with
  | nil =>
      have kept := gathered_append gathered [(path, [])]
      refine ⟨⟨kept.1, kept.2, kept.3, kept.4, kept.5⟩, ?_, ?_⟩
      · intro draft opened
        cases opened
      · intro draft waits
        cases waits
  | append_singleton read raw induction =>
      rw [feedFile, feed_lines_concat]
      exact traced_effect induction (feed_line_effect _ _ _)

theorem gathered_feed_files {base state : Assembler} {earlier : List (String × List String)}
    (gathered : Gathered base earlier state) (files : List (String × List String)) :
    Gathered base (earlier ++ files) (state.feedFiles files) := by
  induction files generalizing earlier state with
  | nil =>
      rw [List.append_nil]
      exact gathered
  | cons file rest induction =>
      have onward := induction (traced_feed_file gathered file.1 file.2).gathered
      rw [List.append_assoc] at onward
      exact onward

/-- What a run adds to a state is written in the files that are read. -/
theorem gathered_since (base : Assembler) (files : List (String × List String)) :
    Gathered base files (base.feedFiles files) := by
  have nothing : Gathered base [] base :=
    ⟨fun _ listed => .inl listed, fun _ listed => .inl listed, fun _ listed => .inl listed,
      fun _ _ held => .inl held, fun _ listed => .inl listed⟩
  exact gathered_feed_files nothing files

theorem finish_written {files : List (String × List String)} {state : Assembler}
    (gathered : Gathered {} files state) : state.finish.WrittenAmong files := by
  constructor
  · intro declaration listed
    exact (gathered.constants declaration listed).resolve_left (by simp)
  · intro declaration listed
    exact (gathered.standalones declaration listed).resolve_left (by simp)
  · intro declaration listed
    exact (gathered.structures declaration listed).resolve_left (by simp)
  · intro declaration listed
    obtain ⟨entry, stored, rfl⟩ := List.mem_map.mp listed
    obtain ⟨place, held⟩ := List.getElem?_of_mem stored
    have written := (gathered.procedures place entry held).resolve_left (by simp)
    cases form : entry.form with
    | prototype =>
        rw [form] at written
        exact .inl written
    | definition =>
        rw [form] at written
        exact .inr written
  · intro declaration listed
    exact (gathered.subroutines declaration listed).resolve_left (by simp)

end Assembler

/-- Every declaration of a model stands at a line of its file that carries an operation of its own
kind and names it as it is named. Constants, variables and structures have the keywords of that
line, and it is no template; subroutines have none; procedures have those of that line or of an
interface further down, and their parameters stand below the line, one below the other. -/
theorem assemble_written_among (files : List (String × List String)) :
    (assemble files).WrittenAmong files :=
  Assembler.finish_written (Assembler.gathered_since {} files)

end RpgSymbols
