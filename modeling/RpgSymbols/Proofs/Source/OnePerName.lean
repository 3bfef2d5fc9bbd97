import Mathlib.Data.List.Basic
import RpgSymbols.Proofs.Text.UpperCase
import RpgSymbols.Source.ProcedureIndex

/-!
Records under names, one for each name in upper case, in the order in which the names first appear.
Of several procedures of one name the last definition stands, or the first prototype when there is
no definition; of several subroutines the first one stands.
-/

namespace RpgSymbols

open Text

section Keys

variable {Value : Type}

/-- One value for each key, in the order of the first appearance of the keys. Which value it is, is
up to `chosen`. -/
def onePerKey (key : Value → String) (chosen : String → Option Value) (values : List Value) :
    List Value :=
  (values.map key).eraseDups.filterMap chosen

theorem erase_dups_concat [BEq Value] [LawfulBEq Value] (values : List Value) (value : Value) :
    (values ++ [value]).eraseDups =
      if value ∈ values then values.eraseDups else values.eraseDups ++ [value] := by
  rw [List.eraseDups_append]
  by_cases known : value ∈ values
  · simp [List.removeAll, known]
  · simp [List.removeAll, known, List.eraseDups_cons]

variable {key : Value → String} {chosen next : String → Option Value} {values : List Value}
  {added : Value}

theorem one_per_key_known (known : key added ∈ values.map key) :
    onePerKey key next (values ++ [added]) = onePerKey key next values := by
  rw [onePerKey, List.map_append, List.map_singleton, erase_dups_concat, if_pos known, onePerKey]

theorem one_per_key_new (new : key added ∉ values.map key) (last : next (key added) = some added) :
    onePerKey key next (values ++ [added]) = onePerKey key next values ++ [added] := by
  rw [onePerKey, List.map_append, List.map_singleton, erase_dups_concat, if_neg new,
    List.filterMap_append, List.filterMap_cons_some last, List.filterMap_nil, onePerKey]

theorem one_per_key_congr (same : ∀ name ∈ values.map key, next name = chosen name) :
    onePerKey key next values = onePerKey key chosen values := by
  apply List.filterMap_congr
  exact fun name member => same name (List.mem_eraseDups.mp member)

/-- The keys come up once each, in the order of their first appearance. -/
theorem keys_one_per_key (own : ∀ name value, chosen name = some value → key value = name)
    (every : ∀ name ∈ values.map key, ∃ value, chosen name = some value) :
    (onePerKey key chosen values).map key = (values.map key).eraseDups := by
  have named : ∀ name ∈ (values.map key).eraseDups, (chosen name).map key = some name := by
    intro name listed
    obtain ⟨value, picked⟩ := every name (List.mem_eraseDups.mp listed)
    rw [picked, Option.map_some, own name value picked]
  rw [onePerKey, List.map_filterMap]
  exact (List.filterMap_congr named).trans List.filterMap_some

theorem find_chosen (own : ∀ name value, chosen name = some value → key value = name)
    (names : List String) (name : String) :
    (names.filterMap chosen).find? (fun value => key value = name) =
      if name ∈ names then chosen name else none := by
  induction names with
  | nil => rfl
  | cons first rest induction =>
      rw [List.filterMap_cons]
      by_cases same : name = first
      · subst same
        cases picked : chosen name with
        | none => simp [induction, picked]
        | some value => simp [own name value picked]
      · cases picked : chosen first with
        | none => simp [induction, same]
        | some value =>
            have other : key value ≠ name := by
              rw [own first value picked]
              exact Ne.symm same
            simp [induction, same, other]

end Keys

/-- The record that stands for a name: its last definition, or else its first record. -/
def standing? (records : List IndexedProcedure) (name : String) : Option IndexedProcedure :=
  (records.reverse.find? fun record => record.key = name ∧ record.form = .definition).or
    (records.find? fun record => record.key = name)

namespace ProcedureIndex

def merged (records : List IndexedProcedure) : ProcedureIndex :=
  ⟨onePerKey IndexedProcedure.key (standing? records) records⟩

end ProcedureIndex

theorem standing_concat (records : List IndexedProcedure) (added : IndexedProcedure)
    (name : String) :
    standing? (records ++ [added]) name =
      if added.key = name then
        if added.form = .definition then some added else (standing? records name).or (some added)
      else standing? records name := by
  unfold standing?
  rw [List.reverse_concat, List.find?_cons, List.find?_append, List.find?_singleton]
  by_cases same : added.key = name
  · by_cases defines : added.form = .definition
    · simp [same, defines]
    · simp [same, defines]
  · simp [same]

theorem standing_key (records : List IndexedProcedure) (name : String)
    (record : IndexedProcedure) (found : standing? records name = some record) :
    record.key = name := by
  rcases Option.or_eq_some_iff.mp found with defined | ⟨_, first⟩
  · have stands := List.find?_some defined
    exact (decide_eq_true_iff.mp stands).1
  · have stands := List.find?_some first
    exact decide_eq_true_iff.mp stands

theorem standing_none_iff (records : List IndexedProcedure) (name : String) :
    standing? records name = none ↔ name ∉ records.map IndexedProcedure.key := by
  simp only [standing?, Option.or_eq_none_iff, List.find?_eq_none, List.mem_reverse, List.mem_map]
  grind

theorem standing_of_mem (records : List IndexedProcedure) (name : String)
    (member : name ∈ records.map IndexedProcedure.key) :
    ∃ record, standing? records name = some record := by
  apply Option.ne_none_iff_exists'.mp
  intro absent
  exact (standing_none_iff records name).mp absent member

/-- A later record leaves a name alone unless it defines it. -/
theorem standing_unchanged (records : List IndexedProcedure) (added : IndexedProcedure)
    (name : String) (member : name ∈ records.map IndexedProcedure.key)
    (weaker : added.form = .prototype ∨ added.key ≠ name) :
    standing? (records ++ [added]) name = standing? records name := by
  obtain ⟨record, present⟩ := standing_of_mem records name member
  rw [standing_concat, present]
  rcases weaker with prototype | other
  · simp [prototype]
  · rw [if_neg other]

theorem standing_replaced (records : List IndexedProcedure) (added : IndexedProcedure)
    (name : String) (member : name ∈ records.map IndexedProcedure.key)
    (defines : added.form = .definition) :
    standing? (records ++ [added]) name =
      (standing? records name).map fun old => if old.key = added.key then added else old := by
  obtain ⟨record, present⟩ := standing_of_mem records name member
  have own := standing_key records name record present
  rw [standing_concat, present, Option.map_some, own, if_pos defines]
  by_cases same : added.key = name
  · rw [if_pos same, if_pos same.symm]
  · rw [if_neg same, if_neg (Ne.symm same)]

namespace ProcedureIndex

theorem find_merged (records : List IndexedProcedure) (name : String) :
    (merged records).find? name = standing? records (upper name) := by
  unfold find? merged onePerKey
  rw [find_chosen (standing_key records)]
  split
  · rfl
  · rename_i absent
    rw [List.mem_eraseDups] at absent
    exact ((standing_none_iff records _).mpr absent).symm

theorem merged_concat_new (records : List IndexedProcedure) (added : IndexedProcedure)
    (new : added.key ∉ records.map IndexedProcedure.key) :
    merged (records ++ [added]) = ⟨(merged records).entries ++ [added]⟩ := by
  have last : standing? (records ++ [added]) added.key = some added := by
    have nothing := (standing_none_iff records added.key).mpr new
    simp [standing_concat, nothing]
  have kept : ∀ name ∈ records.map IndexedProcedure.key,
      standing? (records ++ [added]) name = standing? records name := by
    intro name member
    exact standing_unchanged records added name member (.inr fun same => new (same ▸ member))
  rw [merged, one_per_key_new new last, one_per_key_congr kept, merged]

theorem merged_concat_prototype (records : List IndexedProcedure) (added : IndexedProcedure)
    (known : added.key ∈ records.map IndexedProcedure.key)
    (prototype : added.form = .prototype) : merged (records ++ [added]) = merged records := by
  have kept : ∀ name ∈ records.map IndexedProcedure.key,
      standing? (records ++ [added]) name = standing? records name := by
    intro name member
    exact standing_unchanged records added name member (.inl prototype)
  rw [merged, one_per_key_known known, one_per_key_congr kept, merged]

theorem merged_concat_definition (records : List IndexedProcedure) (added : IndexedProcedure)
    (known : added.key ∈ records.map IndexedProcedure.key)
    (defines : added.form = .definition) :
    merged (records ++ [added]) =
      ⟨(merged records).entries.map fun old => if old.key = added.key then added else old⟩ := by
  have replaced : onePerKey IndexedProcedure.key (standing? (records ++ [added])) records =
      (onePerKey IndexedProcedure.key (standing? records) records).map
        fun old => if old.key = added.key then added else old := by
    rw [onePerKey, onePerKey, List.map_filterMap]
    apply List.filterMap_congr
    intro name member
    exact standing_replaced records added name (List.mem_eraseDups.mp member) defines
  rw [merged, one_per_key_known known, replaced, merged]

/-- Storing one more record is what the index does. -/
theorem merged_concat (records : List IndexedProcedure) (declaration : Declaration)
    (form : ProcedureForm) :
    merged (records ++ [⟨declaration, form⟩]) = (merged records).add declaration form := by
  have found := find_merged records declaration.name
  by_cases known : upper declaration.name ∈ records.map IndexedProcedure.key
  · obtain ⟨old, stands⟩ := standing_of_mem records _ known
    rw [add, found, stands]
    cases form with
    | prototype => exact merged_concat_prototype records ⟨declaration, .prototype⟩ known rfl
    | definition => exact merged_concat_definition records ⟨declaration, .definition⟩ known rfl
  · have absent := (standing_none_iff records _).mpr known
    rw [add, found, absent]
    exact merged_concat_new records ⟨declaration, form⟩ known

theorem merged_known_prototype (records : List IndexedProcedure) (declaration : Declaration)
    (known : (merged records).contains (upper declaration.name) = true) :
    merged (records ++ [⟨declaration, .prototype⟩]) = merged records := by
  rw [contains, find_merged, upper_upper] at known
  obtain ⟨entry, stands⟩ := Option.isSome_iff_exists.mp known
  rw [merged_concat, add, find_merged, stands]
  rfl

end ProcedureIndex

def Declaration.key (declaration : Declaration) : String := upper declaration.name

def firstOf? (declarations : List Declaration) (name : String) : Option Declaration :=
  declarations.find? fun declaration => declaration.key = name

def firstNamed (declarations : List Declaration) : List Declaration :=
  onePerKey Declaration.key (firstOf? declarations) declarations

theorem first_of_key (declarations : List Declaration) (name : String) (found : Declaration)
    (first : firstOf? declarations name = some found) : found.key = name := by
  have named := List.find?_some first
  exact decide_eq_true_iff.mp named

theorem first_of_mem (declarations : List Declaration) (name : String)
    (member : name ∈ declarations.map Declaration.key) :
    ∃ found, firstOf? declarations name = some found := by
  obtain ⟨declaration, listed, named⟩ := List.mem_map.mp member
  apply Option.isSome_iff_exists.mp
  rw [firstOf?, List.find?_isSome]
  exact ⟨declaration, listed, decide_eq_true named⟩

theorem named_any_iff (declarations : List Declaration) (name : String) :
    (declarations.any fun known => known.isNamed (upper name)) = true ↔
      upper name ∈ declarations.map Declaration.key := by
  simp only [List.any_eq_true, List.mem_map, Declaration.isNamed, Declaration.key, upper_upper,
    beq_iff_eq]

theorem known_first_named_iff (declarations : List Declaration) (name : String) :
    ((firstNamed declarations).any fun known => known.isNamed (upper name)) = true ↔
      upper name ∈ declarations.map Declaration.key := by
  have keys : (firstNamed declarations).map Declaration.key =
      (declarations.map Declaration.key).eraseDups :=
    keys_one_per_key (first_of_key declarations) (first_of_mem declarations)
  rw [named_any_iff, keys, List.mem_eraseDups]

theorem first_of_concat (declarations : List Declaration) (added : Declaration) (name : String)
    (member : name ∈ declarations.map Declaration.key) :
    firstOf? (declarations ++ [added]) name = firstOf? declarations name := by
  obtain ⟨found, first⟩ := first_of_mem declarations name member
  rw [firstOf?, List.find?_append, ← firstOf?, first]
  rfl

theorem first_named_known (declarations : List Declaration) (added : Declaration)
    (known : ((firstNamed declarations).any fun old => old.isNamed (upper added.name)) = true) :
    firstNamed (declarations ++ [added]) = firstNamed declarations := by
  have listed : added.key ∈ declarations.map Declaration.key :=
    (known_first_named_iff declarations added.name).mp known
  rw [firstNamed, one_per_key_known listed,
    one_per_key_congr (first_of_concat declarations added), firstNamed]

theorem first_named_new (declarations : List Declaration) (added : Declaration)
    (new : ((firstNamed declarations).any fun old => old.isNamed (upper added.name)) = false) :
    firstNamed (declarations ++ [added]) = firstNamed declarations ++ [added] := by
  have absent : added.key ∉ declarations.map Declaration.key :=
    mt (known_first_named_iff declarations added.name).mpr (ne_true_of_eq_false new)
  have last : firstOf? (declarations ++ [added]) added.key = some added := by
    have nowhere : firstOf? declarations added.key = none := by
      rw [firstOf?, List.find?_eq_none]
      intro declaration listed named
      exact absent (List.mem_map.mpr ⟨declaration, listed, decide_eq_true_iff.mp named⟩)
    rw [firstOf?, List.find?_append, ← firstOf?, nowhere]
    simp
  rw [firstNamed, one_per_key_new absent last,
    one_per_key_congr (first_of_concat declarations added), firstNamed]

end RpgSymbols
