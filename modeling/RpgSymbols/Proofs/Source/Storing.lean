import Mathlib.Data.List.Nodup
import RpgSymbols.Proofs.Source.OnePerName

/-!
What storing a procedure does to the index. A new name gets an entry behind the others. A known name
keeps its place: a definition takes over the entry there, and a prototype changes nothing.
-/

namespace RpgSymbols.ProcedureIndex

open Text

def keys (index : ProcedureIndex) : List String := index.entries.map IndexedProcedure.key

theorem keys_to_list (index : ProcedureIndex) :
    index.toList.map Declaration.key = index.keys := by
  rw [toList, List.map_map]
  rfl

theorem entry_of_to_list {index : ProcedureIndex} {place : Nat} {declaration : Declaration}
    (listed : index.toList[place]? = some declaration) :
    ∃ entry, index.entries[place]? = some entry ∧ entry.declaration = declaration := by
  rw [toList, List.getElem?_map] at listed
  exact Option.map_eq_some_iff.mp listed

theorem find_none_iff (index : ProcedureIndex) (name : String) :
    index.find? name = none ↔ upper name ∉ index.keys := by
  simp only [find?, keys, List.find?_eq_none, List.mem_map, decide_eq_true_eq]
  constructor
  · rintro absent ⟨entry, listed, same⟩
    exact absent entry listed same
  · intro absent entry listed same
    exact absent ⟨entry, listed, same⟩

theorem contains_iff (index : ProcedureIndex) (name : String) :
    index.contains name = true ↔ upper name ∈ index.keys := by
  rw [contains, Option.isSome_iff_ne_none, ne_eq, find_none_iff, not_not]

/-- A record is refused exactly when it is a prototype under a known name. -/
theorem accepts_iff (index : ProcedureIndex) (name : String) (form : ProcedureForm) :
    index.accepts name form = true ↔ form = .definition ∨ upper name ∉ index.keys := by
  rw [← find_none_iff]
  unfold accepts
  cases found : index.find? name with
  | none => simp
  | some entry => simp [ProcedureForm.replaces]

section Adding

variable {index : ProcedureIndex} {declaration : Declaration} {form : ProcedureForm}

theorem add_new (new : upper declaration.name ∉ index.keys) :
    index.add declaration form = ⟨index.entries ++ [⟨declaration, form⟩]⟩ := by
  have absent := (find_none_iff index declaration.name).mpr new
  simp only [add, absent]

theorem add_definition (known : upper declaration.name ∈ index.keys) :
    index.add declaration .definition = ⟨index.entries.map fun old =>
      if old.key = upper declaration.name then ⟨declaration, .definition⟩ else old⟩ := by
  have present : index.find? declaration.name ≠ none :=
    fun absent => (find_none_iff index declaration.name).mp absent known
  obtain ⟨entry, found⟩ := Option.ne_none_iff_exists'.mp present
  simp only [add, found]
  rfl

theorem add_prototype (known : upper declaration.name ∈ index.keys) :
    index.add declaration .prototype = index := by
  have present : index.find? declaration.name ≠ none :=
    fun absent => (find_none_iff index declaration.name).mp absent known
  obtain ⟨entry, found⟩ := Option.ne_none_iff_exists'.mp present
  simp only [add, found]
  rfl

end Adding

theorem keys_add (index : ProcedureIndex) (declaration : Declaration) (form : ProcedureForm) :
    (index.add declaration form).keys =
      if upper declaration.name ∈ index.keys then index.keys
      else index.keys ++ [upper declaration.name] := by
  by_cases known : upper declaration.name ∈ index.keys
  · rw [if_pos known]
    cases form with
    | prototype => rw [add_prototype known]
    | definition =>
        rw [add_definition known, keys, List.map_map]
        apply List.map_congr_left
        intro entry _
        simp only [Function.comp_apply]
        split
        · rename_i same
          exact same.symm
        · rfl
  · rw [if_neg known, add_new known, keys, List.map_append]
    rfl

theorem keys_add_nodup (index : ProcedureIndex) (declaration : Declaration)
    (form : ProcedureForm) (distinct : index.keys.Nodup) :
    (index.add declaration form).keys.Nodup := by
  rw [keys_add]
  split
  · exact distinct
  · rename_i new
    rw [← List.concat_eq_append]
    exact List.Nodup.concat new distinct

/-- A place of the index holds what it held before, or what is stored. -/
theorem entry_of_add {index : ProcedureIndex} {declaration : Declaration} {form : ProcedureForm}
    {place : Nat} {entry : IndexedProcedure}
    (held : (index.add declaration form).entries[place]? = some entry) :
    index.entries[place]? = some entry ∨ entry = ⟨declaration, form⟩ := by
  by_cases known : upper declaration.name ∈ index.keys
  · cases form with
    | prototype =>
        rw [add_prototype known] at held
        exact .inl held
    | definition =>
        rw [add_definition known, List.getElem?_map] at held
        obtain ⟨old, before, same⟩ := Option.map_eq_some_iff.mp held
        split at same
        · exact .inr same.symm
        · exact .inl (same ▸ before)
  · rw [add_new known, List.getElem?_append] at held
    split at held
    · exact .inl held
    · exact .inr (List.mem_singleton.mp (List.mem_of_getElem? held))

end RpgSymbols.ProcedureIndex
