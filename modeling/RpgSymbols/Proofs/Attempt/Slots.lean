import RpgSymbols.Proofs.Attempt.Access
import RpgSymbols.Proofs.Cache.Fetching
import RpgSymbols.Proofs.Source.Collections

/-!
Procedures in numbered slots. An index keeps the procedures, their forms and the slot of each name
apart, and reads and writes by slots. While names are different every slot is one that the lists
have, so storing a procedure succeeds.
-/

namespace RpgSymbols

open Text

/-- Procedures and their forms in two lists, and the slot of each name. -/
structure SlotIndex where
  items : List Declaration := []
  forms : List ProcedureForm := []
  slots : Table Nat := []

def ProcedureIndex.slotted (index : ProcedureIndex) : SlotIndex where
  items := index.toList
  forms := index.entries.map IndexedProcedure.form
  slots := index.keys.zipIdx

namespace SlotIndex

def contains (index : SlotIndex) (name : String) : Bool := Table.hasKey (upper name) index.slots

def add (index : SlotIndex) (declaration : Declaration) (form : ProcedureForm) :
    Attempt SlotIndex :=
  let key := upper declaration.name
  match Table.get? key index.slots with
  | none => .ok {
      items := index.items ++ [declaration]
      forms := index.forms ++ [form]
      slots := Table.set key index.items.length index.slots }
  | some slot => do
      let existing ← Attempt.item index.forms slot
      if form.replaces existing then
        let items ← Attempt.assign index.items slot declaration
        let forms ← Attempt.assign index.forms slot form
        return { index with items := items, forms := forms }
      else return index

end SlotIndex

section Slots

variable {key : String} {keys : List String}

theorem slot_of_key {place : Nat} (distinct : keys.Nodup) (held : keys[place]? = some key)
    (start : Nat) : Table.get? key (keys.zipIdx start) = some (start + place) := by
  induction keys generalizing place start with
  | nil => cases held
  | cons first rest induction =>
      obtain ⟨different, apart⟩ := List.nodup_cons.mp distinct
      rw [List.zipIdx_cons, Table.get?]
      cases place with
      | zero =>
          rw [if_pos (Option.some.inj held)]
          rfl
      | succ place =>
          have later : rest[place]? = some key := held
          have other : first ≠ key := by
            rintro rfl
            exact different (List.mem_of_getElem? later)
          rw [if_neg other, induction apart later, Nat.add_right_comm, Nat.add_assoc]

theorem no_slot (unknown : key ∉ keys) (start : Nat) :
    Table.get? key (keys.zipIdx start) = none := by
  have absent : ¬ Table.hasKey key (keys.zipIdx start) = true := by
    rw [Table.has_key_iff, List.zipIdx_map_fst]
    exact unknown
  exact Option.not_isSome_iff_eq_none.mp absent

end Slots

namespace ProcedureIndex

theorem contains_slotted (index : ProcedureIndex) (name : String) :
    index.slotted.contains name = index.contains name := by
  rw [Bool.eq_iff_iff, contains_iff, SlotIndex.contains, Table.has_key_iff]
  simp only [slotted, List.zipIdx_map_fst]

/-- A name that has a slot stands in that slot in all lists. -/
theorem add_slotted {index : ProcedureIndex} (distinct : index.keys.Nodup)
    (declaration : Declaration) (form : ProcedureForm) :
    index.slotted.add declaration form = .ok (index.add declaration form).slotted := by
  by_cases known : upper declaration.name ∈ index.keys
  · obtain ⟨old, listed, same⟩ := List.mem_map.mp known
    obtain ⟨place, held⟩ := List.getElem?_of_mem listed
    obtain ⟨bound, _⟩ := List.getElem?_eq_some_iff.mp held
    have named : index.keys[place]? = some (upper declaration.name) := by
      rw [keys, List.getElem?_map, held, Option.map_some, same]
    have slot : Table.get? (upper declaration.name) index.slotted.slots = some place := by
      rw [slotted, slot_of_key distinct named, Nat.zero_add]
    have formed : Attempt.item index.slotted.forms place = .ok old.form := by
      apply Attempt.item_of_get
      rw [slotted, List.getElem?_map, held, Option.map_some]
    rw [SlotIndex.add]
    simp only [slot, formed, Attempt.bind_ok]
    cases form with
    | prototype =>
        rw [add_prototype known]
        rfl
    | definition =>
        have items : Attempt.assign index.slotted.items place declaration =
            .ok (index.slotted.items.set place declaration) := by
          rw [Attempt.assign, if_pos]
          simpa [slotted, toList] using bound
        have forms : Attempt.assign index.slotted.forms place .definition =
            .ok (index.slotted.forms.set place .definition) := by
          rw [Attempt.assign, if_pos]
          simpa [slotted] using bound
        have unmoved : (index.entries.set place ⟨declaration, .definition⟩).map
            IndexedProcedure.key = index.keys := by
          obtain ⟨reached, here⟩ := List.getElem?_eq_some_iff.mp named
          rw [List.map_set, IndexedProcedure.key, ← here]
          exact List.set_getElem_self reached
        rw [if_pos (by rfl), items, forms, add_definition_at distinct held same]
        simp only [Attempt.bind_ok, Attempt.pure_ok, slotted, keys, toList, unmoved]
        rw [List.map_set, List.map_set]
  · have absent : Table.get? (upper declaration.name) index.slotted.slots = none :=
      no_slot known 0
    have counted : index.slotted.items.length = index.keys.length := by
      simp [slotted, toList, keys]
    rw [SlotIndex.add]
    simp only [absent, Table.set_new _ absent, counted]
    rw [add_new known]
    simp [slotted, toList, keys, List.zipIdx_append, IndexedProcedure.key]

end ProcedureIndex

end RpgSymbols
