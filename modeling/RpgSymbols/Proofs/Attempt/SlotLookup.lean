import Mathlib.Data.List.Induction
import RpgSymbols.Proofs.Attempt.Slots

/-!
Looking procedures up. Whatever records are stored, the index holds for each name the record that
stands for it, in the order in which the names came up, and a question that is answered through the
slots has the answer that a scan of the procedures gives. That takes no more than different names,
so it holds of the index of every assembler as well.
-/

namespace RpgSymbols

open Text

namespace SlotIndex

def size (index : SlotIndex) : Nat := index.items.length

def get (index : SlotIndex) (name : String) : Attempt (Option Declaration) :=
  match Table.get? (upper name) index.slots with
  | none => .ok none
  | some slot => do
      let found ← Attempt.item index.items slot
      return some found

/-- Whether a record would be stored: its name has no slot, or the form in the slot gives way. -/
def accepts (index : SlotIndex) (name : String) (form : ProcedureForm) : Attempt Bool :=
  match Table.get? (upper name) index.slots with
  | none => .ok true
  | some slot => do
      let existing ← Attempt.item index.forms slot
      return form.replaces existing

def put (index : SlotIndex) (declaration : Declaration) (form : ProcedureForm) :
    Attempt (Bool × SlotIndex) := do
  let stored ← index.accepts declaration.name form
  let next ← index.add declaration form
  return (stored, next)

def putAll (index : SlotIndex) : List IndexedProcedure → Attempt (List Bool × SlotIndex)
  | [] => .ok ([], index)
  | record :: rest => do
      let (stored, next) ← index.put record.declaration record.form
      let (answers, last) ← next.putAll rest
      return (stored :: answers, last)

end SlotIndex

/-- The record has a name that no earlier one has, or it is a definition. -/
def IndexedProcedure.isStoredBehind (record : IndexedProcedure)
    (earlier : List IndexedProcedure) : Bool :=
  decide (record.key ∉ earlier.map IndexedProcedure.key ∨ record.form = .definition)

namespace ProcedureIndex

def addAll (records : List IndexedProcedure) : ProcedureIndex :=
  records.foldl (fun index record => index.add record.declaration record.form) {}

theorem add_all_concat (records : List IndexedProcedure) (added : IndexedProcedure) :
    addAll (records ++ [added]) = (addAll records).add added.declaration added.form := by
  rw [addAll, List.foldl_append]
  rfl

/-- Storing records gives the index of the records that stand. -/
theorem add_all_merged (records : List IndexedProcedure) : addAll records = merged records := by
  induction records using List.reverseRecOn with
  | nil => rfl
  | append_singleton rest added induction => rw [add_all_concat, induction, ← merged_concat]

theorem keys_merged (records : List IndexedProcedure) :
    (merged records).keys = (records.map IndexedProcedure.key).eraseDups :=
  keys_one_per_key (standing_key records) (standing_of_mem records)

theorem keys_add_all_nodup (records : List IndexedProcedure) : (addAll records).keys.Nodup := by
  induction records using List.reverseRecOn with
  | nil => exact List.nodup_nil
  | append_singleton rest added induction =>
      rw [add_all_concat]
      exact keys_add_nodup _ _ _ induction

theorem accepts_add_all (records : List IndexedProcedure) (record : IndexedProcedure) :
    (addAll records).accepts record.declaration.name record.form =
      record.isStoredBehind records := by
  rw [Bool.eq_iff_iff, accepts_iff, add_all_merged, keys_merged, List.mem_eraseDups, or_comm,
    IndexedProcedure.isStoredBehind, decide_eq_true_iff]
  rfl

theorem is_named_by_key (entry : IndexedProcedure) (name : String) :
    entry.declaration.isNamed name = decide (entry.key = upper name) := by
  rw [Declaration.isNamed, IndexedProcedure.key, beq_eq_decide]

theorem get_scans (index : ProcedureIndex) (name : String) :
    index.get? name = index.toList.find? fun declaration => declaration.isNamed name := by
  rw [get?, find?, toList, List.find?_map]
  simp only [Function.comp_def, is_named_by_key]

theorem contains_scans (index : ProcedureIndex) (name : String) :
    index.contains name = index.toList.any fun declaration => declaration.isNamed name := by
  rw [contains, ← Option.isSome_map, ← List.isSome_find?, ← get_scans]
  rfl

/-- A name has no slot and is not found, or it has the slot where its entry stands. -/
theorem slot_cases {index : ProcedureIndex} (distinct : index.keys.Nodup) (name : String) :
    (index.find? name = none ∧ Table.get? (upper name) index.slotted.slots = none) ∨
    ∃ place entry, index.find? name = some entry ∧ index.entries[place]? = some entry ∧
      Table.get? (upper name) index.slotted.slots = some place := by
  cases found : index.find? name with
  | none => exact .inl ⟨rfl, no_slot ((find_none_iff index name).mp found) 0⟩
  | some entry =>
      have matched := List.find?_some found
      have named : entry.key = upper name := decide_eq_true_iff.mp matched
      obtain ⟨place, held⟩ := List.getElem?_of_mem (List.mem_of_find?_eq_some found)
      have key : index.keys[place]? = some (upper name) := by
        rw [keys, List.getElem?_map, held, Option.map_some, named]
      refine .inr ⟨place, entry, rfl, held, ?_⟩
      rw [slotted, slot_of_key distinct key, Nat.zero_add]

section Slotted

variable {index : ProcedureIndex} (distinct : index.keys.Nodup)
include distinct

theorem get_slotted (name : String) : index.slotted.get name = .ok (index.get? name) := by
  unfold SlotIndex.get get?
  rcases slot_cases distinct name with ⟨absent, free⟩ | ⟨place, entry, found, held, slot⟩
  · rw [free, absent]
    rfl
  · have item : Attempt.item index.slotted.items place = .ok entry.declaration := by
      apply Attempt.item_of_get
      rw [slotted, toList, List.getElem?_map, held, Option.map_some]
    simp only [slot, found, item, Attempt.bind_ok, Attempt.pure_ok, Option.map_some]

theorem accepts_slotted (name : String) (form : ProcedureForm) :
    index.slotted.accepts name form = .ok (index.accepts name form) := by
  unfold SlotIndex.accepts accepts
  rcases slot_cases distinct name with ⟨absent, free⟩ | ⟨place, entry, found, held, slot⟩
  · rw [free, absent]
  · have formed : Attempt.item index.slotted.forms place = .ok entry.form := by
      apply Attempt.item_of_get
      rw [slotted, List.getElem?_map, held, Option.map_some]
    simp only [slot, found, formed, Attempt.bind_ok, Attempt.pure_ok]

theorem put_slotted (declaration : Declaration) (form : ProcedureForm) :
    index.slotted.put declaration form =
      .ok (index.accepts declaration.name form, (index.add declaration form).slotted) := by
  rw [SlotIndex.put, accepts_slotted distinct, add_slotted distinct]
  rfl

end Slotted

/-- Every question has the answer that a scan of the procedures gives, also through the slots. -/
structure ScansAlike (index : ProcedureIndex) : Prop where
  size : index.size = index.toList.length ∧ index.slotted.size = index.toList.length
  contains : ∀ word, let known := index.toList.any fun declaration => declaration.isNamed word
    index.contains word = known ∧ index.slotted.contains word = known
  get : ∀ (model : Model) word,
    let found := { model with procedures := index.toList }.findProcedure? word
    index.get? word = found ∧ index.slotted.get word = .ok found

theorem scans_alike {index : ProcedureIndex} (distinct : index.keys.Nodup) : index.ScansAlike := by
  constructor
  · exact ⟨(List.length_map _).symm, rfl⟩
  · intro word
    have scans := contains_scans index word
    exact ⟨scans, (contains_slotted index word).trans scans⟩
  · intro model word
    refine ⟨get_scans index word, ?_⟩
    rw [get_slotted distinct, get_scans]
    rfl

/-- What is answered while records are stored behind earlier ones. -/
theorem put_all_behind (earlier records : List IndexedProcedure) :
    (addAll earlier).slotted.putAll records =
      .ok (records.mapIdx fun number record =>
          record.isStoredBehind (earlier ++ records.take number),
        (addAll (earlier ++ records)).slotted) := by
  induction records generalizing earlier with
  | nil => rw [SlotIndex.putAll, List.append_nil, List.mapIdx_nil]
  | cons record rest induction =>
      have distinct := keys_add_all_nodup earlier
      rw [SlotIndex.putAll, put_slotted distinct, Attempt.bind_ok]
      simp only [← add_all_concat, induction, Attempt.bind_ok, Attempt.pure_ok, accepts_add_all,
        List.mapIdx_cons, List.take_zero, List.take_succ_cons, List.append_nil, List.append_assoc,
        List.singleton_append]

/-- Records are stored one after the other. Then the index has one procedure for each name, in the
order in which the names first came up: the one of the last definition under the name, or of the
first record if there is no definition. A record is stored exactly when its name is new or it is a
definition. Through the slots, storing never fails and gives the same index and the same answers;
and there as here, the number of procedures, whether a name is known and the procedure of a name
are what a scan of the procedures finds. The last holds of every assembler and its model. -/
theorem index_answers_by_reference (records : List IndexedProcedure) :
    let index := addAll records
    let names := (records.map IndexedProcedure.key).eraseDups
    (index.toList.map Declaration.key = names ∧
      index.toList = names.filterMap fun name =>
        (standing? records name).map IndexedProcedure.declaration) ∧
    (∀ name form, index.accepts name form = true ↔ upper name ∉ names ∨ form = .definition) ∧
    SlotIndex.putAll {} records =
      .ok (records.mapIdx fun number record => record.isStoredBehind (records.take number),
        index.slotted) ∧
    index.ScansAlike ∧
    ∀ feedings, let state := Assembler.feedAll feedings
      state.procedures.ScansAlike ∧ ∀ word,
        state.procedures.get? word = state.finish.findProcedure? word ∧
        state.procedures.slotted.get word = .ok (state.finish.findProcedure? word) := by
  intro index names
  have merged := add_all_merged records
  have keys : index.keys = names :=
    (congrArg ProcedureIndex.keys merged).trans (keys_merged records)
  refine ⟨⟨?_, ?_⟩, ?_, ?_, scans_alike (keys_add_all_nodup records), ?_⟩
  · rw [keys_to_list, keys]
  · rw [← List.map_filterMap]
    exact congrArg toList merged
  · intro name form
    rw [accepts_iff, keys, or_comm]
  · exact put_all_behind [] records
  · intro feedings state
    have distinct := (Assembler.consistent_feed_all feedings).distinct
    have scans := scans_alike distinct
    exact ⟨scans, fun word => scans.get state.finish word⟩

end ProcedureIndex

end RpgSymbols
