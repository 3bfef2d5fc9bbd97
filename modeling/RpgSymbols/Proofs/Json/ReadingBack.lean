import RpgSymbols.Proofs.Cache.Fetching
import RpgSymbols.Proofs.Json.Grammar

/-!
Written values are read back. The compact and the indented form differ only in the gaps between
tokens, so both are written by one layout, and what is shown of a layout holds of both. A value can
be read back if its whole numbers have a place in 64 bits, the keys of each object differ and it is
not nested too deep: then what is written spells it.
-/

namespace RpgSymbols.Json

open Text Number

/-- The gaps of a written form: the one before each item and each closing bracket, by depth, and the
one after a colon. -/
structure Layout where
  before : Nat → List Char
  afterColon : List Char
  before_blank : ∀ depth, ∀ c ∈ before depth, isGap c = true
  after_blank : ∀ c ∈ afterColon, isGap c = true

namespace Layout

mutual
def chars (layout : Layout) (depth : Nat) : Json → List Char
  | .null => ['n', 'u', 'l', 'l']
  | .bool true => ['t', 'r', 'u', 'e']
  | .bool false => ['f', 'a', 'l', 's', 'e']
  | .int value => intDigits value
  | .decimal text => text.toList
  | .str value => stringChars value
  | .arr [] => ['[', ']']
  | .arr (item :: rest) =>
      '[' :: (layout.before (depth + 1) ++ chars layout (depth + 1) item ++ items layout depth rest)
  | .obj [] => ['{', '}']
  | .obj ((key, value) :: rest) =>
      '{' :: (layout.before (depth + 1) ++ stringChars key ++ ':' :: (layout.afterColon ++
        (chars layout (depth + 1) value ++ fields layout depth rest)))

def items (layout : Layout) (depth : Nat) : List Json → List Char
  | [] => layout.before depth ++ [']']
  | item :: rest =>
      ',' :: (layout.before (depth + 1) ++ chars layout (depth + 1) item ++ items layout depth rest)

def fields (layout : Layout) (depth : Nat) : List (String × Json) → List Char
  | [] => layout.before depth ++ ['}']
  | (key, value) :: rest =>
      ',' :: (layout.before (depth + 1) ++ stringChars key ++ ':' :: (layout.afterColon ++
        (chars layout (depth + 1) value ++ fields layout depth rest)))
end

def compact : Layout := ⟨fun _ => [], [], by simp, by simp⟩

def indented : Layout where
  before := lineBreak
  afterColon := [' ']
  before_blank := by
    intro depth c listed
    rcases List.mem_cons.mp listed with rfl | blank
    · rfl
    · rw [List.eq_of_mem_replicate blank]
      rfl
  after_blank := by simp [isGap]

mutual
theorem compact_chars (depth : Nat) (value : Json) :
    compactChars value = compact.chars depth value := by
  match value with
  | .null => rfl
  | .bool true => rfl
  | .bool false => rfl
  | .int _ => rfl
  | .decimal _ => rfl
  | .str _ => rfl
  | .arr [] => rfl
  | .arr (item :: rest) =>
      rw [compactChars, chars, compact_chars (depth + 1) item, compact_items depth rest]
      rfl
  | .obj [] => rfl
  | .obj ((key, value) :: rest) =>
      rw [compactChars, chars, compact_chars (depth + 1) value, compact_fields depth rest]
      rfl

theorem compact_items (depth : Nat) (rest : List Json) :
    compactItems rest = compact.items depth rest := by
  match rest with
  | [] => rfl
  | item :: rest =>
      rw [compactItems, items, compact_chars (depth + 1) item, compact_items depth rest]
      rfl

theorem compact_fields (depth : Nat) (rest : List (String × Json)) :
    compactFields rest = compact.fields depth rest := by
  match rest with
  | [] => rfl
  | (key, value) :: rest =>
      rw [compactFields, fields, compact_chars (depth + 1) value, compact_fields depth rest]
      rfl
end

mutual
theorem indented_chars (depth : Nat) (value : Json) :
    indentedChars depth value = indented.chars depth value := by
  match value with
  | .null => rfl
  | .bool true => rfl
  | .bool false => rfl
  | .int _ => rfl
  | .decimal _ => rfl
  | .str _ => rfl
  | .arr [] => rfl
  | .arr (item :: rest) =>
      rw [indentedChars, chars, indented_chars (depth + 1) item, indented_items depth rest]
      rfl
  | .obj [] => rfl
  | .obj ((key, value) :: rest) =>
      rw [indentedChars, chars, indented_chars (depth + 1) value, indented_fields depth rest]
      rfl

theorem indented_items (depth : Nat) (rest : List Json) :
    indentedItems depth rest = indented.items depth rest := by
  match rest with
  | [] => rfl
  | item :: rest =>
      rw [indentedItems, items, indented_chars (depth + 1) item, indented_items depth rest]
      rfl

theorem indented_fields (depth : Nat) (rest : List (String × Json)) :
    indentedFields depth rest = indented.fields depth rest := by
  match rest with
  | [] => rfl
  | (key, value) :: rest =>
      rw [indentedFields, fields, indented_chars (depth + 1) value, indented_fields depth rest]
      rfl
end

end Layout

/-- Values that can be read back where nesting is limited. -/
inductive Readable : Nat → Json → Prop where
  | null {limit : Nat} : Readable limit .null
  | bool {limit : Nat} (value : Bool) : Readable limit (.bool value)
  | int {limit : Nat} {value : Int} (fits : fitsWord value = true) : Readable limit (.int value)
  | str {limit : Nat} (value : String) : Readable limit (.str value)
  | arr {limit : Nat} {items : List Json} (each : ∀ item ∈ items, Readable limit item) :
      Readable (limit + 1) (.arr items)
  | obj {limit : Nat} {fields : List (String × Json)} (distinct : (Table.keys fields).Nodup)
      (each : ∀ field ∈ fields, Readable limit field.2) : Readable (limit + 1) (.obj fields)

theorem strings_readable {limit : Nat} (texts : List String) : Readable (limit + 1) (strings texts) := by
  apply Readable.arr
  intro item listed
  obtain ⟨text, -, rfl⟩ := List.mem_map.mp listed
  exact .str text

theorem optional_readable {limit : Nat} (text : Option String) : Readable limit (optional text) := by
  cases text with
  | none => exact .null
  | some text => exact .str text

theorem written_string_spells (value : String) :
    SpellsString (value.toList.flatMap escapedChar ++ ['"']) value.toList where
  printed := (characters_printed value.toList).append (by decide)
  reads rest := by rw [List.append_assoc, List.singleton_append, read_string]

theorem written_int_spells {value : Int} (fits : fitsWord value = true) :
    SpellsNumber (intDigits value) (.int value) where
  printed := int_digits_printed value
  starts := int_digits_head value
  reads _ ends := read_number fits ends

namespace Layout

variable {layout : Layout} {limit depth : Nat}

theorem items_spell {others : List Json}
    (each : ∀ item ∈ others, Spells limit (layout.chars (depth + 1) item) (.value item)) :
    Spells limit (layout.items depth others) (.items others) := by
  induction others with
  | nil => exact .lastItem (layout.before_blank depth)
  | cons item others induction =>
      obtain ⟨head, later⟩ := List.forall_mem_cons.mp each
      rw [items, List.append_assoc]
      exact .nextItem gap_nil (layout.before_blank (depth + 1)) head (induction later)

theorem field_spells (key : String) {value : Json} {text : List Char}
    (spells : Spells limit text (.value value)) :
    Spells limit (stringChars key ++ ':' :: (layout.afterColon ++ text)) (.field key value) := by
  have field := Spells.field (written_string_spells key) gap_nil layout.after_blank spells
  rwa [String.ofList_toList] at field

/-- A field whose key is new is put behind those so far. -/
theorem fields_spell {others sofar : List (String × Json)}
    (each : ∀ field ∈ others, Spells limit (layout.chars (depth + 1) field.2) (.value field.2))
    (distinct : (Table.keys (sofar ++ others)).Nodup) :
    Spells limit (layout.fields depth others) (.fields sofar (sofar ++ others)) := by
  induction others generalizing sofar with
  | nil =>
      rw [List.append_nil]
      exact .lastField (layout.before_blank depth)
  | cons field others induction =>
      obtain ⟨key, value⟩ := field
      obtain ⟨head, later⟩ := List.forall_mem_cons.mp each
      have new : Table.get? key sofar = none := by
        rw [← Option.not_isSome_iff_eq_none]
        intro known
        rw [Table.keys, List.map_append, List.map_cons, List.nodup_append] at distinct
        exact distinct.2.2 key ((Table.has_key_iff key sofar).mp known) key List.mem_cons_self rfl
      rw [List.append_cons] at distinct ⊢
      have tail := induction later distinct
      rw [← Table.set_new value new] at tail
      have spells := Spells.nextField gap_nil (layout.before_blank (depth + 1))
        (layout.field_spells key head) tail
      rw [fields, ← Table.set_new value new]
      simpa using spells

/-- Whatever can be read back is spelled, in every layout. -/
theorem chars_spell (layout : Layout) {value : Json} (readable : Readable limit value)
    (depth : Nat) : Spells limit (layout.chars depth value) (.value value) := by
  induction readable generalizing depth with
  | null => exact .null
  | bool value =>
      cases value with
      | true => exact .true
      | false => exact .false
  | int fits => exact .number (written_int_spells fits)
  | @str limit value =>
      have spells := @Spells.string limit _ _ (written_string_spells value)
      rw [String.ofList_toList] at spells
      exact spells
  | @arr limit others each induction =>
      cases others with
      | nil => exact .emptyArray gap_nil
      | cons item others =>
          rw [chars, List.append_assoc]
          exact .array (layout.before_blank (depth + 1))
            (induction item List.mem_cons_self (depth + 1))
            (items_spell fun item listed =>
              induction item (List.mem_cons_of_mem _ listed) (depth + 1))
  | @obj limit members distinct each induction =>
      cases members with
      | nil => exact .emptyObject gap_nil
      | cons field others =>
          obtain ⟨key, value⟩ := field
          have head := layout.field_spells key
            (induction (key, value) List.mem_cons_self (depth + 1))
          have tail : Spells limit (layout.fields depth others)
              (.fields [(key, value)] ([(key, value)] ++ others)) :=
            fields_spell (fun field listed =>
              induction field (List.mem_cons_of_mem _ listed) (depth + 1)) distinct
          have spells := Spells.object (layout.before_blank (depth + 1)) head tail
          rw [chars]
          simpa using spells

theorem parse_chars (layout : Layout) {value : Json} (readable : Readable depthLimit value)
    (depth : Nat) : parseChars? (layout.chars depth value) = some value :=
  parse_chars_iff.mpr ⟨[], _, [], gap_nil, gap_nil, by simp, layout.chars_spell readable depth⟩

end Layout

theorem parse_compact {value : Json} (readable : Readable depthLimit value) :
    parseChars? (compactChars value) = some value := by
  rw [Layout.compact_chars 0]
  exact Layout.compact.parse_chars readable 0

theorem parse_indented {value : Json} (readable : Readable depthLimit value) :
    parse? value.indented = some value := by
  rw [parse?, Json.indented, String.toList_ofList, Layout.indented_chars]
  exact Layout.indented.parse_chars readable 0

end RpgSymbols.Json
