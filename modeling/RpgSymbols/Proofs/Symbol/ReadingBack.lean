import RpgSymbols.Proofs.Json.ReadingBack
import RpgSymbols.Proofs.Text.Encoding
import RpgSymbols.Schema.Declaration
import RpgSymbols.Symbol.Encode

/-!
Printed models are read back. The text of a model is that of one JSON value, and each declaration in
the value passes its check and comes out as it was. A declaration adds two levels of nesting to those
it encloses, so what the check allows is far from where reading stops.
-/

namespace RpgSymbols

open Json Text Number Schema

/-! What is encoded passes its check. -/

namespace Schema

theorem check_items_encoded {Value : Type} {check : List Step → Json → Checked Value}
    (encode : Value → Json) (passes : ∀ location value, check location (encode value) = .valid value)
    (location : List Step) (place : Nat) (values : List Value) :
    checkItems check location place (values.map encode) = .valid values := by
  induction values generalizing place with
  | nil => rfl
  | cons value values induction =>
      rw [List.map_cons, checkItems, passes, induction]
      rfl

theorem check_strings (expected : FaultKind) (location : List Step) (texts : List String) :
    checkTexts expected location (strings texts) = .valid texts :=
  check_items_encoded .str (fun _ _ => rfl) location 0 texts

theorem check_optional_text (location : List Step) (text : Option String) :
    checkOptionalText location (optional text) = .valid text := by
  cases text <;> rfl

theorem check_kind_name (location : List Step) (kind : Kind) :
    checkKind location (.str kind.name) = .valid kind := by
  have known : Kind.ofName? kind.name = some kind := by cases kind <;> decide
  rw [checkKind, known]

theorem check_encoded_position (location : List Step) (position : Option Position) :
    checkPosition location (position.elim .null Position.toJson) = .valid position := by
  cases position <;> rfl

theorem check_encoded_tags (location : List Step) (tags : List Tag) :
    checkTags location (.arr (tags.map Tag.toJson)) = .valid tags :=
  check_items_encoded Tag.toJson (fun _ _ => rfl) location 0 tags

end Schema

namespace Declaration

/-- A declaration of at most `levels` levels, itself the first of them, in which only procedures have
subitems and every line has a place in 64 bits. -/
inductive Proper : Nat → Declaration → Prop where
  | intro {levels : Nat} {declaration : Declaration}
      (line : ∀ position ∈ declaration.position, fitsWord position.line = true)
      (nested : declaration.subItems ≠ [] → declaration.kind = .procedure)
      (each : ∀ item ∈ declaration.subItems, Proper levels item) : Proper (levels + 1) declaration

def fields (declaration : Declaration) : Table Json := [
  ("description", .str declaration.description),
  ("display_keywords", strings declaration.displayKeywords),
  ("keywords", strings declaration.keywords),
  ("kind", .str declaration.kind.name),
  ("name", .str declaration.name),
  ("position", declaration.position.elim .null Position.toJson),
  ("sub_items", .arr (listToJson declaration.subItems)),
  ("tags", .arr (declaration.tags.map Tag.toJson)),
  ("title", optional declaration.title)]

theorem to_json_fields (declaration : Declaration) : declaration.toJson = .obj declaration.fields := by
  cases declaration
  rfl

theorem list_to_json_map (declarations : List Declaration) :
    listToJson declarations = declarations.map toJson := by
  induction declarations with
  | nil => rfl
  | cons declaration rest induction => rw [listToJson, induction, List.map_cons]

theorem check_own_fields (location : List Step) (declaration : Declaration) :
    checkOwnFields location declaration.fields = .valid { declaration with subItems := [] } := by
  have found : Table.get? "kind" declaration.fields = some (.str declaration.kind.name) ∧
      Table.get? "name" declaration.fields = some (.str declaration.name) ∧
      Table.get? "keywords" declaration.fields = some (strings declaration.keywords) ∧
      Table.get? "display_keywords" declaration.fields = some (strings declaration.displayKeywords) ∧
      Table.get? "title" declaration.fields = some (Json.optional declaration.title) ∧
      Table.get? "description" declaration.fields = some (.str declaration.description) ∧
      Table.get? "tags" declaration.fields = some (.arr (declaration.tags.map Tag.toJson)) ∧
      Table.get? "position" declaration.fields =
        some (declaration.position.elim .null Position.toJson) :=
    ⟨rfl, rfl, rfl, rfl, rfl, rfl, rfl, rfl⟩
  simp only [checkOwnFields, checkRequired, checkDefaulted, found, check_kind_name, check_strings,
    check_optional_text, check_encoded_tags, check_encoded_position, checkText, Checked.and,
    Checked.map]

theorem check_sub_items (depth : Nat) (location : List Step) (declaration : Declaration) :
    checkSubItems depth location declaration.fields =
      checkDeclarations (depth + 1) (location ++ [.key "sub_items"]) 0
        (declaration.subItems.map toJson) := by
  rw [← list_to_json_map]
  simp [fields, checkSubItems, checkSubItemList]

theorem check_declarations {depth : Nat} {declarations : List Declaration}
    (passes : ∀ declaration ∈ declarations, ∀ location,
      checkDeclaration depth location declaration.toJson = .valid declaration)
    (location : List Step) (place : Nat) :
    checkDeclarations depth location place (declarations.map toJson) = .valid declarations := by
  induction declarations generalizing place with
  | nil => rfl
  | cons declaration rest induction =>
      obtain ⟨first, later⟩ := List.forall_mem_cons.mp passes
      rw [List.map_cons, checkDeclarations, first, induction later]
      rfl

theorem with_own_sub_items {declaration : Declaration} (location : List Step)
    (nested : declaration.subItems ≠ [] → declaration.kind = .procedure) :
    withSubItems location { declaration with subItems := [] } declaration.subItems =
      .valid declaration := by
  have allowed : (declaration.subItems.isEmpty || declaration.kind = .procedure) = true := by
    by_cases none : declaration.subItems = []
    · simp [none]
    · simp [nested none]
  cases declaration
  exact if_pos allowed

/-- A declaration passes the check inside as many others as its own levels leave room for. -/
theorem check_encoded {levels depth : Nat} {declaration : Declaration}
    (proper : Proper levels declaration) (room : depth + levels ≤ deepestNesting + 1)
    (location : List Step) :
    checkDeclaration depth location declaration.toJson = .valid declaration := by
  induction proper generalizing depth location with
  | @intro levels declaration line nested each induction =>
      have shallow : ¬ deepestNesting < depth := by omega
      have inner : checkDeclarations (depth + 1) (location ++ [.key "sub_items"]) 0
          (declaration.subItems.map toJson) = .valid declaration.subItems :=
        check_declarations (fun item listed => induction item listed (by omega)) _ 0
      rw [to_json_fields, checkDeclaration, if_neg shallow, check_own_fields, check_sub_items, inner]
      exact with_own_sub_items location nested

/-! What is encoded can be written and read. -/

theorem position_readable {position : Option Position}
    (fits : ∀ place ∈ position, fitsWord place.line = true) {limit : Nat} :
    Readable (limit + 1) (position.elim .null Position.toJson) := by
  cases position with
  | none => exact .null
  | some place =>
      apply Readable.obj (by simp [Table.keys])
      simp only [List.forall_mem_cons]
      exact ⟨.int (fits place rfl), .str _, List.forall_mem_nil _⟩

theorem tags_encoded_readable {limit : Nat} (tags : List Tag) :
    Readable (limit + 2) (.arr (tags.map Tag.toJson)) := by
  apply Readable.arr
  intro item listed
  obtain ⟨tag, -, rfl⟩ := List.mem_map.mp listed
  apply Readable.obj (by simp [Table.keys])
  simp only [List.forall_mem_cons]
  exact ⟨.str _, .str _, List.forall_mem_nil _⟩

theorem to_json_readable {levels : Nat} {declaration : Declaration}
    (proper : Proper levels declaration) (limit : Nat) :
    Readable (limit + 2 * levels + 1) declaration.toJson := by
  induction proper with
  | @intro levels declaration line nested each induction =>
      have inner : Readable (limit + 2 * levels + 1 + 1) (.arr (listToJson declaration.subItems)) := by
        rw [list_to_json_map]
        apply Readable.arr
        intro item listed
        obtain ⟨subItem, held, rfl⟩ := List.mem_map.mp listed
        exact induction subItem held
      rw [to_json_fields]
      apply Readable.obj (by simp [fields, Table.keys])
      simp only [fields, List.forall_mem_cons]
      exact ⟨.str _, strings_readable _, strings_readable _, .str _, .str _, position_readable line,
        inner, tags_encoded_readable _, optional_readable _, List.forall_mem_nil _⟩

end Declaration

/-! Models. -/

namespace Model

/-- Models whose declarations the check allows. -/
def Proper (model : Model) : Prop :=
  ∀ declaration ∈ model.declarations, declaration.Proper (deepestNesting + 1)

/-- The declarations in a list, each of which has to pass its check. -/
def declarationsOfJson? : Json → Option (List Declaration)
  | .arr items => items.mapM fun item =>
      match declarationOfJson item with
      | .valid declaration => some declaration
      | .invalid _ => none
  | _ => none

def ofJson? : Json → Option Model
  | .obj fields => do
      let collection (key : String) := (Table.get? key fields).bind declarationsOfJson?
      some {
        constants := ← collection "constants"
        standalones := ← collection "variables"
        structures := ← collection "structures"
        procedures := ← collection "procedures"
        subroutines := ← collection "subroutines" }
  | _ => none

theorem declarations_read_back {declarations : List Declaration}
    (proper : ∀ declaration ∈ declarations, declaration.Proper (deepestNesting + 1)) :
    declarationsOfJson? (.arr (Declaration.listToJson declarations)) = some declarations := by
  rw [Declaration.list_to_json_map, declarationsOfJson?]
  induction declarations with
  | nil => rfl
  | cons declaration rest induction =>
      obtain ⟨first, later⟩ := List.forall_mem_cons.mp proper
      have valid : declarationOfJson declaration.toJson = .valid declaration :=
        Declaration.check_encoded first (by omega) []
      rw [List.map_cons, List.mapM_cons, valid, induction later]
      rfl

theorem collections_proper {model : Model} (proper : model.Proper) :
    (∀ declaration ∈ model.constants, declaration.Proper (deepestNesting + 1)) ∧
      (∀ declaration ∈ model.standalones, declaration.Proper (deepestNesting + 1)) ∧
      (∀ declaration ∈ model.structures, declaration.Proper (deepestNesting + 1)) ∧
      (∀ declaration ∈ model.procedures, declaration.Proper (deepestNesting + 1)) ∧
      ∀ declaration ∈ model.subroutines, declaration.Proper (deepestNesting + 1) := by
  simpa only [Proper, declarations, List.forall_mem_append, and_assoc] using proper

theorem of_json_to_json {model : Model} (proper : model.Proper) :
    ofJson? model.toJson = some model := by
  obtain ⟨constants, standalones, structures, procedures, subroutines⟩ := collections_proper proper
  simp [ofJson?, toJson, Table.get?, declarations_read_back constants,
    declarations_read_back standalones, declarations_read_back structures,
    declarations_read_back procedures, declarations_read_back subroutines]

theorem to_json_readable {model : Model} (proper : model.Proper) :
    Readable depthLimit model.toJson := by
  have collection {declarations : List Declaration}
      (each : ∀ declaration ∈ declarations, declaration.Proper (deepestNesting + 1)) :
      Readable (511 + 2 * (deepestNesting + 1) + 2) (.arr (Declaration.listToJson declarations)) := by
    rw [Declaration.list_to_json_map]
    apply Readable.arr
    intro item listed
    obtain ⟨declaration, held, rfl⟩ := List.mem_map.mp listed
    exact Declaration.to_json_readable (each declaration held) 511
  obtain ⟨constants, standalones, structures, procedures, subroutines⟩ := collections_proper proper
  apply Readable.obj (by simp [Table.keys])
  simp only [List.forall_mem_cons]
  exact ⟨collection constants, collection procedures, collection structures, collection subroutines,
    collection standalones, List.forall_mem_nil _⟩

/-- The printed form of a model is the text of its JSON value, the model is rebuilt from that value
declaration by declaration, and no other model is printed alike. -/
theorem printed_read_back {model : Model} (proper : model.Proper) :
    parseBytes? (encodeUtf8 model.printed) = some model.toJson ∧
      ofJson? model.toJson = some model ∧
      ∀ other : Model, other.Proper → other.printed = model.printed → other = model := by
  have reads {model : Model} (proper : model.Proper) : parse? model.printed = some model.toJson :=
    parse_indented (to_json_readable proper)
  refine ⟨?_, of_json_to_json proper, ?_⟩
  · rw [parseBytes?, encodeUtf8, decode_encoded]
    exact reads proper
  · intro other otherProper alike
    have value : some other.toJson = some model.toJson := by
      rw [← reads otherProper, alike, reads proper]
    have same : ofJson? other.toJson = ofJson? model.toJson := congrArg ofJson? (Option.some.inj value)
    rw [of_json_to_json otherProper, of_json_to_json proper] at same
    exact Option.some.inj same

/-- A procedure inside a parameter list, texts with characters that are escaped or take several bytes,
and the largest and the smallest line number. -/
def awkwardModel : Model where
  procedures := [{
    kind := .procedure
    name := "\"quoted\"\\\u2028"
    keywords := ["é", "😀", ""]
    title := some "\t"
    description := "\x7b\"line\":1\x7d\r\n"
    tags := [⟨"param", "one\x00"⟩, ⟨"param", ""⟩]
    position := some ⟨"/a\nb", 18446744073709551615⟩
    subItems := [
      { kind := .procedure, name := "", displayKeywords := ["]"], title := some "null",
        position := some ⟨"", -9223372036854775808⟩, subItems := [{ kind := .subitem, name := "[" }] },
      { kind := .subitem, name := ",", tags := [⟨"\x1f", "\x7f"⟩] }] }]
  standalones := [{ kind := .constant, name := "misplaced" }]

theorem awkward_model_read_back :
    awkwardModel.Proper ∧ parseBytes? (encodeUtf8 awkwardModel.printed) = some awkwardModel.toJson ∧
      ofJson? awkwardModel.toJson = some awkwardModel ∧
      ∀ other : Model, other.Proper → other.printed = awkwardModel.printed → other = awkwardModel := by
  have flat {levels : Nat} {declaration : Declaration} (nothing : declaration.subItems = [])
      (line : ∀ position ∈ declaration.position, fitsWord position.line = true) :
      declaration.Proper (levels + 1) :=
    .intro line (absurd nothing) (by rw [nothing]; exact List.forall_mem_nil _)
  have proper : awkwardModel.Proper := by
    simp only [Proper, awkwardModel, declarations, List.nil_append, List.append_nil,
      List.singleton_append, List.forall_mem_cons]
    refine ⟨flat rfl (by decide), .intro (by decide) (fun _ => rfl) ?_, List.forall_mem_nil _⟩
    simp only [List.forall_mem_cons]
    refine ⟨.intro (by decide) (fun _ => rfl) ?_, flat rfl (by decide), List.forall_mem_nil _⟩
    simp only [List.forall_mem_cons]
    exact ⟨flat rfl (by decide), List.forall_mem_nil _⟩
  exact ⟨proper, printed_read_back proper⟩

end Model

end RpgSymbols
