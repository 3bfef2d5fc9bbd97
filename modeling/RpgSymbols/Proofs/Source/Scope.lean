import RpgSymbols.Proofs.Source.Nesting
import RpgSymbols.Proofs.Source.WellFormed

/-!
Which declarations inside procedures and structures stay out of the model. The assembler keeps one
open declaration and no depth: a line is sheltered exactly while some declaration is open there.
Both main statements say which closing lines take the shelter away, and that no others do.
-/

namespace RpgSymbols

open Text

def Model.globals (model : Model) : List Declaration :=
  model.constants ++ model.standalones ++ model.structures

/-- Whatever a properly nested file has on line `number` and behind it, none of the declarations
that `kept` selects is positioned on that line. -/
def Sheltered (kept : Model → List Declaration) (path : String) (lines : List String)
    (number : Nat) : Prop :=
  ∀ rest, ProperlyNested (lines.take number ++ rest) →
    ∀ declaration ∈ kept (assemble [(path, lines.take number ++ rest)]),
      declaration.position ≠ some ⟨path, number⟩

namespace Assembler

def EndsStructure (state : Assembler) (raw : String) : Prop :=
  ∃ heading others, state.current = some (.dataStructure heading) ∧
    instruction? raw = some (.closeStructure, others)

/-- The line closes the procedure that is open. The ends of a prototype and of a body are not told
apart. -/
def EndsProcedure (state : Assembler) (raw : String) : Prop :=
  ∃ draft operation others, state.current = some (.procedure draft) ∧
    instruction? raw = some (operation, others) ∧
    (operation = .closePrototype ∨ operation = .closeProcedure)

def EndsSubroutine (state : Assembler) (raw : String) : Prop :=
  ∃ heading others, state.current = some (.subroutine heading) ∧
    instruction? raw = some (.closeSubroutine, others)

/-- The line closes the open declaration, and no suspended procedure takes its place. -/
def Vacates (state : Assembler) (raw : String) : Prop :=
  state.EndsStructure raw ∨ state.EndsProcedure raw ∨
    (state.EndsSubroutine raw ∧ state.suspended = none)

theorem vacates_current {state : Assembler} {raw : String} (vacates : state.Vacates raw)
    (position : Position) : (state.feedLine position raw).current = none := by
  rcases vacates with ⟨heading, others, opened, reads⟩ |
    ⟨draft, operation, others, opened, reads, closes⟩ | ⟨⟨heading, others, opened, reads⟩, alone⟩
  · rw [feed_end_structure reads opened, current_finalize]
  · rw [feed_end_procedure reads closes opened, current_finalize]
  · rw [feed_end_subroutine reads opened, alone, Option.map_none]

/-- Once a declaration is open, one stays open until a line vacates the place. -/
theorem occupied_effect {state next : Assembler} {position : Position} {raw : String}
    (effect : Effect state position raw next) (occupied : state.current ≠ none)
    (stays : ¬ state.Vacates raw) : next.current ≠ none := by
  cases effect with
  | idle => exact occupied
  | marker reads => exact occupied
  | comment inert worded active => exact occupied
  | constant reads vacant => exact absurd vacant occupied
  | standalone reads vacant plain => exact absurd vacant occupied
  | pattern reads declares vacant template => exact absurd vacant occupied
  | structureLine reads vacant plain ends => exact absurd vacant occupied
  | prototypeLine reads vacant new ends => exact absurd vacant occupied
  | structureEnded reads opened => exact absurd (.inl ⟨_, _, opened, reads⟩) stays
  | procedureEnded reads closes opened =>
      exact absurd (.inr (.inl ⟨_, _, _, opened, reads, closes⟩)) stays
  | subroutineEnded reads opened =>
      intro resumed
      have alone : state.suspended = none := Option.map_eq_none_iff.mp resumed
      exact stays (.inr (.inr ⟨⟨_, _, opened, reads⟩, alone⟩))
  | _ => exact Option.some_ne_none _

def InProcedure (state : Assembler) : Prop :=
  (∃ draft, state.current = some (.procedure draft)) ∨
    ((∃ heading, state.current = some (.subroutine heading)) ∧ state.suspended ≠ none)

theorem in_procedure_occupied {state : Assembler} (holds : state.InProcedure) :
    state.current ≠ none := by
  rcases holds with ⟨draft, opened⟩ | ⟨⟨heading, opened⟩, _⟩ <;> simp [opened]

theorem in_procedure_with_docs (state : Assembler) (docs : DocumentationTracker) :
    { state with docs := docs }.InProcedure ↔ state.InProcedure := Iff.rfl

theorem in_procedure_effect {state next : Assembler} {position : Position} {raw : String}
    (effect : Effect state position raw next) (holds : state.InProcedure)
    (stays : ¬ state.EndsProcedure raw) : next.InProcedure := by
  have occupied := in_procedure_occupied holds
  cases effect with
  | idle => exact holds
  | marker reads => exact (in_procedure_with_docs _ _).mpr holds
  | comment inert worded active => exact (in_procedure_with_docs _ _).mpr holds
  | parameter inert worded opened reading => exact .inl ⟨_, rfl⟩
  | constant reads vacant => exact absurd vacant occupied
  | standalone reads vacant plain => exact absurd vacant occupied
  | pattern reads declares vacant template => exact absurd vacant occupied
  | structureBegun reads vacant plain lasts => exact absurd vacant occupied
  | structureLine reads vacant plain ends => exact absurd vacant occupied
  | prototypeBegun reads vacant new lasts => exact absurd vacant occupied
  | prototypeLine reads vacant new ends => exact absurd vacant occupied
  | procedureBegun reads => exact .inl ⟨_, rfl⟩
  | interfaceBegun reads opened => exact .inl ⟨_, rfl⟩
  | interfaceEnded reads opened => exact .inl ⟨_, rfl⟩
  | subroutineBegun reads new suspends retains =>
      -- The procedure is suspended now, unless a subroutine inside it had suspended it before.
      refine .inr ⟨⟨_, rfl⟩, ?_⟩
      rcases holds with ⟨draft, opened⟩ | ⟨⟨heading, opened⟩, suspended⟩
      · simp [openDraft, suspends draft opened]
      · have other : ∀ draft, state.current ≠ some (.procedure draft) := by simp [opened]
        simpa [openDraft, retains other] using suspended
  | structureEnded reads opened =>
      rcases holds with ⟨draft, same⟩ | ⟨⟨heading, same⟩, _⟩ <;> simp [opened] at same
  | procedureEnded reads closes opened => exact absurd ⟨_, _, _, opened, reads, closes⟩ stays
  | subroutineEnded reads opened =>
      rcases holds with ⟨draft, same⟩ | ⟨_, suspended⟩
      · simp [opened] at same
      · obtain ⟨draft, same⟩ := Option.ne_none_iff_exists'.mp suspended
        exact .inl ⟨draft, by simp [same]⟩

end Assembler

/-- While something is open, a line brings no constant, variable or structure into the model. -/
theorem sheltered_of_occupied (path : String) (lines : List String) (number : Nat)
    (bound : number ≤ lines.length)
    (occupied : (Assembler.atLine [] path lines number).current ≠ none) :
    Sheltered Model.globals path lines number := by
  intro rest _ declaration member placed
  have before : (lines.take number).length = number := List.length_take_of_le bound
  have kinded := Assembler.kinded_feed_files [(path, lines.take number ++ rest)]
  have listed : declaration ∈ (assemble [(path, lines.take number ++ rest)]).declarations := by
    simp only [Model.globals, List.mem_append] at member
    simp only [Model.declarations, List.mem_append]
    tauto
  obtain ⟨raw, operation, others, written, reads, opening⟩ :=
    opened_at_position [] [] path _ (by simp) declaration listed number placed
  have state : Assembler.atLine [] path (lines.take number ++ rest) number =
      Assembler.atLine [] path lines number := by
    rw [Assembler.at_line_append _ _ _ _ _ (Nat.le_of_eq before.symm), Assembler.atLine,
      List.take_take, Nat.min_self, Assembler.atLine]
  rw [state] at opening
  have kind : declaration.kind = .constant ∨ declaration.kind = .standalone ∨
      declaration.kind = .dataStructure := by
    simp only [Model.globals, List.mem_append] at member
    rcases member with (constant | standalone) | structure_
    · exact .inl (kinded.constants declaration constant)
    · exact .inr (.inl (kinded.standalones declaration standalone))
    · exact .inr (.inr (kinded.structures declaration structure_))
  have opens : operation.kind? = some declaration.kind := opening.kind
  -- Only a procedure and a subroutine are opened while something is open.
  rcases opening.vacant with vacant | rfl | rfl
  · exact occupied vacant
  · rcases kind with same | same | same <;> simp [same, Operation.kind?] at opens
  · rcases kind with same | same | same <;> simp [same, Operation.kind?] at opens

/-- A structure that is whole on its line, as it may stand anywhere. -/
def likeStructure : String := "dcl-ds Alike likeds(Model);"

theorem like_structure_whole :
    instruction? likeStructure = some (.openStructure, ["Alike", "likeds(Model)"]) ∧
      templateKeyword ∉ ["likeds(Model)"].map upper ∧
      endsOnItsLine "DCL-DS" (["likeds(Model)"].map upper) = true := by
  decide

theorem like_structure_neutral (number : Nat) (scopes : List Scope) :
    nestLine number likeStructure scopes = some scopes := by
  obtain ⟨reads, -, ends⟩ := like_structure_whole
  unfold nestLine
  simp only [reads, Operation.opens?, List.tail_cons, ends, if_true, Operation.closes?]

theorem like_structure_gathered (state : Assembler) (position : Position)
    (vacant : state.current = none) :
    ∃ declaration ∈ (state.feedLine position likeStructure).structures,
      declaration.position = some position := by
  obtain ⟨reads, plain, ends⟩ := like_structure_whole
  rw [Assembler.feed_structure_line reads vacant plain ends]
  exact ⟨_, List.mem_append_right _ (List.mem_singleton_self _), rfl⟩

/-- Where nothing is open, a structure on the line would be gathered. -/
theorem not_sheltered_of_vacant (path : String) (lines : List String)
    (nested : ProperlyNested lines) (number : Nat) (bound : number ≤ lines.length)
    (vacant : (Assembler.atLine [] path lines number).current = none) :
    ¬ Sheltered Model.structures path lines number := by
  intro sheltered
  have before : (lines.take number).length = number := List.length_take_of_le bound
  -- The same file with a whole structure put in at the line: what is gathered there stays.
  let file := lines.take number ++ likeStructure :: lines.drop number
  have state : Assembler.atLine [] path file number =
      Assembler.atLine [] path lines number := by
    rw [Assembler.at_line_append _ _ _ _ _ (Nat.le_of_eq before.symm), Assembler.atLine,
      List.take_take, Nat.min_self, Assembler.atLine]
  have inFile : number < file.length := by
    simp only [file, List.length_append, List.length_cons, before]
    omega
  have line : file[number]? = some likeStructure := by
    simp [file, before]
  have next := Assembler.at_line_succ line [] path
  rw [state] at next
  obtain ⟨declaration, gathered, placed⟩ := like_structure_gathered _ ⟨path, number⟩ vacant
  rw [← next] at gathered
  have kept := (Assembler.at_line_extends [] path file (number + 1) file.length inFile
    (Nat.le_refl _)).structures.subset gathered
  have neutral := properly_nested_insert lines number likeStructure like_structure_neutral nested
  have listed : declaration ∈ (assemble [(path, file)]).structures := by
    rw [assemble_single]
    exact kept
  exact sheltered _ neutral declaration listed placed

theorem sheltered_structures {path : String} {lines : List String} {number : Nat}
    (sheltered : Sheltered Model.globals path lines number) :
    Sheltered Model.structures path lines number :=
  fun rest nested declaration member =>
    sheltered rest nested declaration (List.mem_append_right _ member)

theorem procedure_opening {operation : Operation} {others : List String}
    (opens : operation.opens? others = some .procedure) : operation = .openProcedure := by
  cases operation <;> simp [Operation.opens?] at opens
  rfl

theorem structure_opening {operation : Operation} {others : List String}
    (opens : operation.opens? others = some .dataStructure) :
    operation = .openStructure ∧ endsOnItsLine "DCL-DS" (others.tail.map upper) = false := by
  cases operation <;> simp [Operation.opens?] at opens
  exact ⟨rfl, by rw [List.map_tail]; exact opens⟩

/-- What stands in the body of a named procedure stays out of the model up to the first line that
closes a procedure while one is open, and there only. The end of a prototype inside the body is such
a line, and so is the end of a procedure inside it. -/
theorem procedure_scope_iff (path : String) (lines : List String) (nested : ProperlyNested lines)
    (point : Nat) (scope : Scope) (inside : Inside lines point scope)
    (body : scope.construct = .procedure) (named : scope.words ≠ []) :
    (∀ number, scope.line < number → number ≤ point →
        Sheltered Model.globals path lines number) ↔
      ∀ number raw, scope.line < number → number < point → lines[number]? = some raw →
        ¬ (Assembler.atLine [] path lines number).EndsProcedure raw := by
  have bound := inside_bound lines nested point scope inside
  constructor
  · intro sheltered number raw lower upper written ends
    have inFile : number < lines.length := Nat.lt_trans upper bound
    have vacant : (Assembler.atLine [] path lines (number + 1)).current = none := by
      rw [Assembler.at_line_succ written]
      exact Assembler.vacates_current (.inr (.inl ends)) _
    exact not_sheltered_of_vacant path lines nested (number + 1) inFile vacant
      (sheltered_structures (sheltered (number + 1) (Nat.lt_succ_of_lt lower) upper))
  · intro stays number lower upper
    obtain ⟨before, raw, operation, written, reads, opens⟩ := inside_opening lines point scope inside
    have begun : (Assembler.atLine [] path lines (scope.line + 1)).InProcedure := by
      rw [body] at opens
      cases procedure_opening opens
      obtain ⟨name, display, spelled⟩ := List.exists_cons_of_ne_nil named
      rw [Assembler.at_line_succ written, Assembler.feed_line_of_instruction reads, spelled]
      exact .inl ⟨_, rfl⟩
    have held : (Assembler.atLine [] path lines number).InProcedure := by
      apply Assembler.stretch_keeps Assembler.InProcedure [] path lines (scope.line + 1) number
        lower (by omega) begun
      intro place raw behind ahead written holds
      exact Assembler.in_procedure_effect (Assembler.feed_line_effect _ _ _) holds
        (stays place raw behind (by omega) written)
    exact sheltered_of_occupied path lines number (by omega) (Assembler.in_procedure_occupied held)

def plainBody : List String :=
  ["dcl-proc P;", "dcl-ds Own qualified;", "end-ds;", "begsr Part;", "endsr;",
    "dcl-s local int(10);", "end-proc;"]

theorem plain_body_sheltered :
    ProperlyNested plainBody ∧ Inside plainBody 6 ⟨.procedure, 0, ["P"]⟩ ∧
      Sheltered Model.globals "/a" plainBody 5 := by
  have nested : ProperlyNested plainBody := by decide +kernel
  have inside : Inside plainBody 6 ⟨.procedure, 0, ["P"]⟩ :=
    ⟨[⟨.procedure, 0, ["P"]⟩], by decide +kernel, List.mem_singleton_self _⟩
  have operations : ∀ raw ∈ plainBody.take 6,
      (instruction? raw).map Prod.fst ≠ some .closePrototype ∧
        (instruction? raw).map Prod.fst ≠ some .closeProcedure := by decide +kernel
  refine ⟨nested, inside, ?_⟩
  apply (procedure_scope_iff "/a" plainBody nested 6 _ inside rfl (List.cons_ne_nil _ _)).mpr ?_ 5
    (by decide) (by decide)
  rintro number raw _ before written ⟨_, operation, others, _, reads, closes⟩
  have listed : raw ∈ plainBody.take 6 := by
    apply List.mem_of_getElem?
    rw [List.getElem?_take_of_lt before]
    exact written
  obtain ⟨noPrototype, noProcedure⟩ := operations raw listed
  rw [reads] at noPrototype noProcedure
  rcases closes with rfl | rfl
  · exact noPrototype rfl
  · exact noProcedure rfl

def prototypeInBody : List String :=
  ["dcl-proc P;", "dcl-pr q;", "end-pr;", "dcl-s local int(10);", "end-proc;"]

/-- The end of the prototype ends the procedure, and the variable is taken for a global one. -/
theorem prototype_in_body_exposes :
    ¬ ∀ path lines number scope, ProperlyNested lines → Inside lines number scope →
      scope.construct = .procedure → scope.words ≠ [] →
      ∀ declaration ∈ (assemble [(path, lines)]).globals,
        declaration.position ≠ some ⟨path, number⟩ := by
  intro sheltered
  have nested : ProperlyNested prototypeInBody := by decide +kernel
  have inside : Inside prototypeInBody 3 ⟨.procedure, 0, ["P"]⟩ :=
    ⟨[⟨.procedure, 0, ["P"]⟩], by decide +kernel, List.mem_singleton_self _⟩
  have exposed : some ⟨"/a", 3⟩ ∈
      (assemble [("/a", prototypeInBody)]).globals.map Declaration.position := by
    decide +kernel
  obtain ⟨declaration, member, placed⟩ := List.mem_map.mp exposed
  exact sheltered "/a" prototypeInBody 3 _ nested inside rfl (List.cons_ne_nil _ _) declaration
    member placed

/-- The first line of a structure leaves something open exactly when something was open before, or
when it names a structure that is no template. -/
theorem structure_begun_iff {raw : String} {others : List String} (state : Assembler)
    (position : Position) (reads : instruction? raw = some (.openStructure, others))
    (lasts : endsOnItsLine "DCL-DS" (others.tail.map upper) = false) :
    (state.feedLine position raw).current ≠ none ↔
      state.current ≠ none ∨
        ∃ name display, others = name :: display ∧ templateKeyword ∉ display.map upper := by
  cases opened : state.current with
  | some draft =>
      rw [Assembler.feed_line_of_instruction reads]
      simp [Assembler.perform, Assembler.onOpenStructure, opened]
  | none =>
      cases others with
      | nil =>
          rw [Assembler.feed_line_of_instruction reads]
          simp [Assembler.perform, Assembler.onOpenStructure, opened]
      | cons name display =>
          by_cases template : templateKeyword ∈ display.map upper
          · rw [Assembler.feed_structure_pattern reads opened template]
            simp only [Assembler.consumeDocs, opened]
            grind
          · rw [Assembler.feed_structure reads opened template lasts]
            simp only [Assembler.openDraft]
            grind

/-- No structure inside another one gets into the model, exactly when the outer one is opened, or is
passed over because something is open, and no line inside it closes what is open and leaves nothing
open. So a template gives no shelter where nothing is open, and the end of the first structure inside
takes it away. -/
theorem structure_scope_iff (path : String) (lines : List String) (nested : ProperlyNested lines)
    (point : Nat) (scope : Scope) (inside : Inside lines point scope)
    (body : scope.construct = .dataStructure) :
    (∀ number, scope.line < number → number ≤ point →
        Sheltered Model.structures path lines number) ↔
      ((Assembler.atLine [] path lines scope.line).current ≠ none ∨
        ∃ name display, scope.words = name :: display ∧ templateKeyword ∉ display.map upper) ∧
      ∀ number raw, scope.line < number → number < point → lines[number]? = some raw →
        ¬ (Assembler.atLine [] path lines number).Vacates raw := by
  have bound := inside_bound lines nested point scope inside
  obtain ⟨before, raw, operation, written, reads, opens⟩ := inside_opening lines point scope inside
  rw [body] at opens
  obtain ⟨rfl, lasts⟩ := structure_opening opens
  have begun := structure_begun_iff (Assembler.atLine [] path lines scope.line)
    ⟨path, scope.line⟩ reads lasts
  rw [← Assembler.at_line_succ written] at begun
  constructor
  · intro sheltered
    have occupied : ∀ number, scope.line < number → number ≤ point →
        (Assembler.atLine [] path lines number).current ≠ none := by
      intro number lower upper vacant
      exact not_sheltered_of_vacant path lines nested number (by omega) vacant
        (sheltered number lower upper)
    refine ⟨begun.mp (occupied _ (Nat.lt_succ_self _) before), ?_⟩
    intro number raw lower upper written vacates
    apply occupied (number + 1) (Nat.lt_succ_of_lt lower) upper
    rw [Assembler.at_line_succ written]
    exact Assembler.vacates_current vacates _
  · rintro ⟨opened, stays⟩ number lower upper
    have occupied : (Assembler.atLine [] path lines number).current ≠ none := by
      apply Assembler.stretch_keeps (fun state => state.current ≠ none) [] path lines
        (scope.line + 1) number lower (by omega) (begun.mpr opened)
      intro place raw behind ahead written holds
      exact Assembler.occupied_effect (Assembler.feed_line_effect _ _ _) holds
        (stays place raw behind (by omega) written)
    exact sheltered_structures (sheltered_of_occupied path lines number (by omega) occupied)

def nestedStructure : List String :=
  ["dcl-ds Outer qualified;", "dcl-ds A;", "end-ds;", "end-ds;"]

theorem first_inner_structure_sheltered :
    ProperlyNested nestedStructure ∧
      Inside nestedStructure 2 ⟨.dataStructure, 0, ["Outer", "qualified"]⟩ ∧
      Sheltered Model.structures "/a" nestedStructure 1 := by
  have nested : ProperlyNested nestedStructure := by decide +kernel
  have inside : Inside nestedStructure 2 ⟨.dataStructure, 0, ["Outer", "qualified"]⟩ :=
    ⟨[⟨.dataStructure, 1, ["A"]⟩, ⟨.dataStructure, 0, ["Outer", "qualified"]⟩],
      by decide +kernel, List.mem_cons_of_mem _ (List.mem_singleton_self _)⟩
  have inner : instruction? "dcl-ds A;" = some (.openStructure, ["A"]) := by decide +kernel
  refine ⟨nested, inside, ?_⟩
  refine (structure_scope_iff "/a" nestedStructure nested 2 _ inside rfl).mpr ⟨.inr ?_, ?_⟩ 1
    (by decide) (by decide)
  · exact ⟨"Outer", ["qualified"], rfl, by decide +kernel⟩
  · intro number raw behind ahead written vacates
    have place : number = 1 := Nat.le_antisymm (Nat.le_of_lt_succ ahead) behind
    subst place
    cases written
    rcases vacates with ⟨_, _, _, reads⟩ | ⟨_, _, _, _, reads, closes⟩ | ⟨⟨_, _, _, reads⟩, _⟩
    · rw [inner] at reads
      cases reads
    · rw [inner] at reads
      cases reads
      rcases closes with wrong | wrong <;> cases wrong
    · rw [inner] at reads
      cases reads

def twiceNestedStructure : List String :=
  ["dcl-ds Outer qualified;", "dcl-ds A;", "end-ds;", "dcl-ds B;", "end-ds;", "end-ds;"]

/-- The end of the first structure inside ends the outer one, and the second gets into the model. -/
theorem second_inner_structure_exposed :
    ¬ ∀ path lines number scope, ProperlyNested lines → Inside lines number scope →
      scope.construct = .dataStructure →
      ∀ declaration ∈ (assemble [(path, lines)]).structures,
        declaration.position ≠ some ⟨path, number⟩ := by
  intro sheltered
  have nested : ProperlyNested twiceNestedStructure := by decide +kernel
  have inside : Inside twiceNestedStructure 3 ⟨.dataStructure, 0, ["Outer", "qualified"]⟩ :=
    ⟨[⟨.dataStructure, 0, ["Outer", "qualified"]⟩], by decide +kernel,
      List.mem_singleton_self _⟩
  have exposed : some ⟨"/a", 3⟩ ∈
      (assemble [("/a", twiceNestedStructure)]).structures.map Declaration.position := by
    decide +kernel
  obtain ⟨declaration, member, placed⟩ := List.mem_map.mp exposed
  exact sheltered "/a" twiceNestedStructure 3 _ nested inside rfl declaration member placed

end RpgSymbols
