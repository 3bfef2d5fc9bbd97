import RpgSymbols.Files.Tree
import Mathlib.Data.List.Nodup

/-!
What making directories and writing files do to a tree. Directories are added at places that are
free, so no file is touched; and a file that was written is read back from the same path, whether it
is new or takes the place of another, and whatever links the path leads through.
-/

namespace RpgSymbols.FileTree

open Text

/-! Looking up a place after something was put somewhere. -/

theorem absent_of_entry {tree : FileTree} {place : Place} (absent : tree.entry? place = none) :
    place ≠ [] ∧ place ∉ tree.entries.map Prod.fst := by
  have named : place ≠ [] := by
    rintro rfl
    cases absent
  refine ⟨named, ?_⟩
  rw [ entry?, if_neg (by simpa using named), Option.map_eq_none_iff, List.find?_eq_none] at absent
  intro listed
  obtain ⟨entry, member, same⟩ := List.mem_map.mp listed
  exact absent entry member (by simp [same])

theorem put_absent {tree : FileTree} {place : Place} (absent : place ∉ tree.entries.map Prod.fst)
    (entry : Entry) : tree.put place entry = ⟨tree.entries ++ [(place, entry)]⟩ := by
  have unused : (tree.entries.any fun old => old.1 == place) = false := by
    rw [List.any_eq_false]
    intro old listed same
    exact absent (List.mem_map.mpr ⟨old, listed, by simpa using same⟩)
  rw [put, unused]
  rfl

theorem put_present {tree : FileTree} {place : Place} (present : place ∈ tree.entries.map Prod.fst)
    (entry : Entry) :
    tree.put place entry =
      ⟨tree.entries.map fun old => if old.1 == place then (place, entry) else old⟩ := by
  have used : (tree.entries.any fun old => old.1 == place) = true := by
    obtain ⟨old, listed, same⟩ := List.mem_map.mp present
    exact List.any_eq_true.mpr ⟨old, listed, by simp [same]⟩
  rw [put, used]
  rfl

theorem find_replaced (entries : List (Place × Entry)) (place other : Place) (entry : Entry) :
    (entries.map fun old => if old.1 == place then (place, entry) else old).find?
        (fun found => found.1 == other) =
      (entries.find? fun found => found.1 == other).map fun old =>
        if old.1 == place then (place, entry) else old := by
  rw [List.find?_map]
  congr 2
  funext old
  by_cases here : old.1 = place
  · simp [here]
  · simp [here]

theorem entry_put (tree : FileTree) {place : Place} (named : place ≠ []) (entry : Entry)
    (other : Place) :
    entry? (tree.put place entry) other =
      if other = place then some entry else tree.entry? other := by
  by_cases top : other = []
  · subst top
    rw [if_neg (Ne.symm named)]
    rfl
  · have below : other.isEmpty = false := by simpa using top
    rw [ entry?, entry?, below]
    by_cases present : place ∈ tree.entries.map Prod.fst
    · rw [put_present present, find_replaced]
      cases found : tree.entries.find? fun old => old.1 == other with
      | none =>
          have unlisted : other ≠ place := by
            rintro rfl
            obtain ⟨old, listed, same⟩ := List.mem_map.mp present
            exact List.find?_eq_none.mp found old listed (by simp [same])
          rw [if_neg unlisted]
          rfl
      | some old =>
          have same : old.1 = other := by simpa using List.find?_some found
          by_cases here : other = place
          · simp [same, here]
          · simp [same, here]
    · rw [put_absent present, List.find?_append]
      by_cases here : other = place
      · subst here
        have missing : (tree.entries.find? fun old => old.1 == other) = none := by
          rw [List.find?_eq_none]
          intro old listed same
          exact present (List.mem_map.mpr ⟨old, listed, by simpa using same⟩)
        simp [missing]
      · have unasked : (place == other) = false := by simpa using Ne.symm here
        simp [here, unasked]

/-! Walking to a place that is free, and then walking there again. -/

section Advance

variable {tree : FileTree} {here : Place} {name : String} {rest : List String}
  (inside : ¬(!tree.isDirectoryAt here) = true)
  (moves : ¬(decide (name = "") || decide (name = ".")) = true) (climbs : ¬name = "..")
include inside moves climbs

theorem advance_enter {entry : Entry} (found : tree.entry? (here ++ [name]) = some entry)
    (plain : ∀ target, entry = .link target → False) :
    tree.advance here (name :: rest) = tree.advance (here ++ [name]) rest := by
  rw [advance, if_neg inside, if_neg moves, if_neg climbs]
  simp only [found]

theorem advance_link {target : String}
    (found : tree.entry? (here ++ [name]) = some (.link target)) :
    tree.advance here (name :: rest) = .atLink here name target rest := by
  rw [advance, if_neg inside, if_neg moves, if_neg climbs]
  simp only [found]

theorem advance_free (free : tree.entry? (here ++ [name]) = none) :
    tree.advance here (name :: rest) =
      if rest.isEmpty then .landed (.vacant (here ++ [name])) else .failed .missing := by
  rw [advance, if_neg inside, if_neg moves, if_neg climbs]
  simp only [free]

end Advance

theorem advance_vacant {tree : FileTree} {here place : Place} {names : List String}
    (lands : tree.advance here names = .landed (.vacant place)) : tree.entry? place = none := by
  fun_induction tree.advance here names with
  | case1 here => cases lands
  | case2 here name rest blocked => cases lands
  | case3 here name rest inside stays induction => exact induction lands
  | case4 here rest inside moves induction => exact induction lands
  | case5 here name rest inside moves climbs next absent last =>
      injection lands with landing
      injection landing with same
      exact same ▸ absent
  | case6 here name rest inside moves climbs next absent more => cases lands
  | case7 here name rest inside moves climbs next target linked => cases lands
  | case8 here name rest inside moves climbs next entry found linked induction =>
      exact induction lands

theorem walk_vacant {tree : FileTree} {follow : Bool} {budget : Nat} {here place : Place}
    {names : List String} (lands : tree.walk follow budget here names = .ok (.vacant place)) :
    tree.entry? place = none := by
  fun_induction tree.walk follow budget here names with
  | case1 budget here names landing halts =>
      cases lands
      exact advance_vacant halts
  | case2 budget here names error halts => cases lands
  | case3 budget here names directory name target rest halts ends => cases lands
  | case4 here names directory name target rest halts continues => cases lands
  | case5 here names directory name target rest halts continues budget induction =>
      exact induction lands

def Landing.filled (place : Place) : Landing → Landing
  | .vacant other => if other = place then .present other else .vacant other
  | .present other => .present other

def Halt.filled (place : Place) : Halt → Halt
  | .landed landing => .landed (landing.filled place)
  | .failed error => .failed error
  | .atLink directory name target rest => .atLink directory name target rest

section Filling

variable {tree : FileTree} {place : Place} (absent : tree.entry? place = none) (new : Entry)
include absent

theorem entry_filled {other : Place} {entry : Entry} (found : tree.entry? other = some entry) :
    entry? (tree.put place new) other = some entry := by
  have differs : other ≠ place := by
    rintro rfl
    cases absent.symm.trans found
  rw [entry_put tree (absent_of_entry absent).1, if_neg differs, found]

theorem inside_filled {here : Place} (inside : ¬(!tree.isDirectoryAt here) = true) :
    ¬(!(tree.put place new).isDirectoryAt here) = true := by
  have directory : tree.entry? here = some .directory := by
    simpa [isDirectoryAt] using inside
  simp [isDirectoryAt, entry_filled absent new directory]

variable (unlinked : ∀ target, new = .link target → False)
include unlinked

theorem advance_filled {here : Place} {names : List String}
    (succeeds : ∀ error, tree.advance here names ≠ .failed error) :
    (tree.put place new).advance here names =
      (tree.advance here names).filled place := by
  fun_induction tree.advance here names with
  | case1 here => rfl
  | case2 here name rest blocked => exact absurd rfl (succeeds _)
  | case3 here name rest inside stays induction =>
      rw [advance, if_neg (inside_filled absent new inside), if_pos stays, induction succeeds]
  | case4 here rest inside moves induction =>
      rw [advance, if_neg (inside_filled absent new inside), if_neg moves, if_pos rfl,
        induction succeeds]
  | case5 here name rest inside moves climbs next free last =>
      have inside := inside_filled absent new inside
      have filled := entry_put tree (absent_of_entry absent).1 new next
      rw [Halt.filled, Landing.filled]
      by_cases target : next = place
      · rw [if_pos target] at filled ⊢
        rw [advance_enter inside moves climbs filled unlinked, List.isEmpty_iff.mp last]
        rfl
      · rw [if_neg target] at filled ⊢
        rw [advance_free inside moves climbs (filled.trans free), if_pos last]
  | case6 here name rest inside moves climbs next free more => exact absurd rfl (succeeds _)
  | case7 here name rest inside moves climbs next target linked =>
      exact advance_link (inside_filled absent new inside) moves climbs
        (entry_filled absent new linked)
  | case8 here name rest inside moves climbs next entry plain found induction =>
      rw [advance_enter (inside_filled absent new inside) moves climbs
        (entry_filled absent new found) plain, induction succeeds]

theorem walk_filled {follow : Bool} {budget : Nat} {here : Place} {names : List String}
    {landing : Landing} (lands : tree.walk follow budget here names = .ok landing) :
    (tree.put place new).walk follow budget here names = .ok (landing.filled place) := by
  have advanced : ∀ {here names halt}, tree.advance here names = halt →
      (∀ error, halt ≠ .failed error) →
      (tree.put place new).advance here names = halt.filled place := by
    intro here names halt halts succeeds
    subst halts
    exact advance_filled absent new unlinked succeeds
  fun_induction tree.walk follow budget here names with
  | case1 budget here names found halts =>
      cases lands
      rw [walk, advanced halts (by simp), Halt.filled]
  | case2 budget here names error halts => cases lands
  | case3 budget here names directory name target rest halts ends =>
      cases lands
      rw [walk, advanced halts (by simp), Halt.filled]
      simp only [ends, if_true]
      rfl
  | case4 here names directory name target rest halts continues => cases lands
  | case5 here names directory name target rest halts continues budget induction =>
      rw [walk, advanced halts (by simp), Halt.filled]
      simp only [continues]
      exact induction lands

end Filling

/-! Walking to something that is there, and then walking there again. -/

/-- A place that can be walked to: directories lead there, and no link stands there. -/
structure Reached (tree : FileTree) (place : Place) : Prop where
  above : ∀ count < place.length, tree.isDirectoryAt (place.take count) = true
  plain : ∃ entry, tree.entry? place = some entry ∧ ∀ target, entry ≠ .link target

theorem reached_top (tree : FileTree) : tree.Reached [] :=
  ⟨by simp, .directory, rfl, by simp⟩

theorem Reached.parent {tree : FileTree} {place : Place} (reached : tree.Reached place) :
    tree.Reached place.dropLast := by
  by_cases top : place = []
  · subst top
    exact reached
  · have positive : 0 < place.length := List.length_pos_iff.mpr top
    rw [List.dropLast_eq_take]
    constructor
    · intro count bound
      rw [List.length_take] at bound
      rw [List.take_take, Nat.min_eq_left (by omega)]
      exact reached.above count (by omega)
    · have directory := reached.above (place.length - 1) (by omega)
      exact ⟨.directory, by simpa [isDirectoryAt] using directory, by simp⟩

theorem Reached.child {tree : FileTree} {place : Place} (reached : tree.Reached place)
    (inside : ¬(!tree.isDirectoryAt place) = true) {name : String} {entry : Entry}
    (found : tree.entry? (place ++ [name]) = some entry)
    (plain : ∀ target, entry = .link target → False) : tree.Reached (place ++ [name]) := by
  refine ⟨?_, entry, found, plain⟩
  intro count bound
  rw [List.length_append, List.length_singleton] at bound
  rw [List.take_append_of_le_length (by omega)]
  rcases Nat.lt_or_ge count place.length with before | all
  · exact reached.above count before
  · rw [List.take_of_length_le all]
    simpa using inside

theorem advance_reached {tree : FileTree} {here : Place} {names : List String}
    (reached : tree.Reached here) :
    (∀ place, tree.advance here names = .landed (.present place) → tree.Reached place) ∧
      ∀ directory name target rest,
        tree.advance here names = .atLink directory name target rest → tree.Reached directory := by
  fun_induction tree.advance here names with
  | case1 here =>
      refine ⟨?_, by simp⟩
      rintro place ⟨rfl⟩
      exact reached
  | case2 here name rest blocked => simp
  | case3 here name rest inside stays induction => exact induction reached
  | case4 here rest inside moves induction => exact induction reached.parent
  | case5 here name rest inside moves climbs next free last => simp
  | case6 here name rest inside moves climbs next free more => simp
  | case7 here name rest inside moves climbs next target linked =>
      refine ⟨by simp, ?_⟩
      rintro _ _ _ _ ⟨rfl, rfl, rfl, rfl⟩
      exact reached
  | case8 here name rest inside moves climbs next entry plain found induction =>
      exact induction (reached.child inside found plain)

theorem walk_reached {tree : FileTree} {budget : Nat} {here place : Place} {names : List String}
    (reached : tree.Reached here)
    (lands : tree.walk true budget here names = .ok (.present place)) : tree.Reached place := by
  fun_induction tree.walk true budget here names with
  | case1 budget here names landing halts =>
      cases lands
      exact (advance_reached reached).1 place halts
  | case2 budget here names error halts => cases lands
  | case3 budget here names directory name target rest halts ends => simp at ends
  | case4 here names directory name target rest halts continues => cases lands
  | case5 here names directory name target rest halts continues budget induction =>
      apply induction _ lands
      unfold linkStart
      split
      · exact reached_top tree
      · exact (advance_reached reached).2 directory name target rest halts

section Replacing

variable {tree : FileTree} {place : Place} {old : List UInt8}
  (found : tree.entry? place = some (.file old)) (bytes : List UInt8)
include found

theorem named_of_file : place ≠ [] := by
  rintro rfl
  cases found

/-- A file is no directory and no link, so other bytes in it change no walk. -/
theorem entry_replaced (other : Place) :
    entry? (tree.put place (.file bytes)) other = tree.entry? other ∨
      ∃ before, tree.entry? other = some (.file before) ∧
        entry? (tree.put place (.file bytes)) other = some (.file bytes) := by
  rw [entry_put tree (named_of_file found)]
  by_cases here : other = place
  · exact .inr ⟨old, here ▸ found, if_pos here⟩
  · exact .inl (if_neg here)

theorem directory_replaced (other : Place) :
    (tree.put place (.file bytes)).isDirectoryAt other = tree.isDirectoryAt other := by
  rcases entry_replaced found bytes other with same | ⟨before, held, replaced⟩
  · rw [isDirectoryAt, same, isDirectoryAt]
  · rw [isDirectoryAt, replaced, isDirectoryAt, held]
    rfl

theorem advance_replaced (here : Place) (names : List String) :
    (tree.put place (.file bytes)).advance here names = tree.advance here names := by
  fun_induction tree.advance here names with
  | case1 here => rfl
  | case2 here name rest blocked => rw [advance, directory_replaced found, if_pos blocked]
  | case3 here name rest inside stays induction =>
      rw [advance, directory_replaced found, if_neg inside, if_pos stays, induction]
  | case4 here rest inside moves induction =>
      rw [advance, directory_replaced found, if_neg inside, if_neg moves, if_pos rfl, induction]
  | case5 here name rest inside moves climbs next free last =>
      rw [← directory_replaced found bytes] at inside
      rcases entry_replaced found bytes next with same | ⟨before, held, _⟩
      · rw [advance_free inside moves climbs (same.trans free), if_pos last]
      · cases free.symm.trans held
  | case6 here name rest inside moves climbs next free more =>
      rw [← directory_replaced found bytes] at inside
      rcases entry_replaced found bytes next with same | ⟨before, held, _⟩
      · rw [advance_free inside moves climbs (same.trans free), if_neg more]
      · cases free.symm.trans held
  | case7 here name rest inside moves climbs next target linked =>
      rw [← directory_replaced found bytes] at inside
      rcases entry_replaced found bytes next with same | ⟨before, held, _⟩
      · exact advance_link inside moves climbs (same.trans linked)
      · cases linked.symm.trans held
  | case8 here name rest inside moves climbs next entry plain held induction =>
      rw [← directory_replaced found bytes] at inside
      rcases entry_replaced found bytes next with same | ⟨before, _, replaced⟩
      · rw [advance_enter inside moves climbs (same.trans held) plain, induction]
      · rw [advance_enter inside moves climbs replaced (by simp), induction]

theorem walk_replaced (follow : Bool) (budget : Nat) (here : Place) (names : List String) :
    (tree.put place (.file bytes)).walk follow budget here names =
      tree.walk follow budget here names := by
  fun_induction tree.walk follow budget here names with
  | case1 budget here names landing halts =>
      rw [walk, advance_replaced found, halts]
  | case2 budget here names error halts =>
      rw [walk, advance_replaced found, halts]
  | case3 budget here names directory name target rest halts ends =>
      rw [walk, advance_replaced found, halts]
      exact if_pos ends
  | case4 here names directory name target rest halts continues =>
      rw [walk, advance_replaced found, halts]
      exact if_neg continues
  | case5 here names directory name target rest halts continues budget induction =>
      rw [walk, advance_replaced found, halts]
      exact (if_neg continues).trans induction

end Replacing

/-- What was written at a path is read there. -/
theorem read_write {tree written : FileTree} {names : List String} {bytes : List UInt8}
    (writes : tree.write names bytes = .ok written) : written.read names = .ok bytes := by
  unfold write at writes
  split at writes
  · rename_i place lands
    cases writes
    have free := walk_vacant lands
    have stands := entry_put tree (absent_of_entry free).1 (.file bytes) place
    rw [if_pos rfl] at stands
    have walked := walk_filled free (.file bytes) (by simp) lands
    rw [Landing.filled, if_pos rfl] at walked
    simp only [read, locate, walked, stands]
  · rename_i place lands
    split at writes
    · cases writes
    · rename_i plain
      cases writes
      obtain ⟨entry, found, unlinked⟩ := (walk_reached (reached_top tree) lands).plain
      cases entry with
      | directory => exact absurd (by simp [isDirectoryAt, found]) plain
      | link target => exact absurd rfl (unlinked target)
      | file old =>
          have stands := entry_put tree (named_of_file found) (.file bytes) place
          rw [if_pos rfl] at stands
          simp only [read, locate, walk_replaced found, lands, stands]
  · cases writes

/-! Making directories. -/

/-- The later tree is the earlier one with directories at places that were free. -/
structure Furnished (before later : FileTree) : Prop where
  added : ∃ more, later.entries = before.entries ++ more ∧ ∀ entry ∈ more, entry.2 = .directory
  distinct : (before.entries.map Prod.fst).Nodup → (later.entries.map Prod.fst).Nodup

theorem Furnished.refl (tree : FileTree) : Furnished tree tree :=
  ⟨⟨[], by simp⟩, id⟩

theorem Furnished.trans {first second third : FileTree} (left : Furnished first second)
    (right : Furnished second third) : Furnished first third := by
  obtain ⟨some, grown, directories⟩ := left.added
  obtain ⟨more, grownAgain, others⟩ := right.added
  refine ⟨⟨some ++ more, ?_, ?_⟩, fun distinct => right.distinct (left.distinct distinct)⟩
  · rw [grownAgain, grown, List.append_assoc]
  · intro entry listed
    exact (List.mem_append.mp listed).elim (directories entry) (others entry)

/-- A directory is made where a walk finds a free place. -/
theorem make_directory_iff {tree made : FileTree} {names : List String} :
    tree.makeDirectory names = .ok made ↔
      ∃ place, tree.walk false linkLimit [] names = .ok (.vacant place) ∧
        tree.put place .directory = made := by
  rw [makeDirectory]
  cases tree.walk false linkLimit [] names with
  | error reason => simp
  | ok landing => cases landing <;> simp

theorem make_directory_furnishes {tree made : FileTree} {names : List String}
    (makes : tree.makeDirectory names = .ok made) : Furnished tree made := by
  obtain ⟨place, lands, rfl⟩ := make_directory_iff.mp makes
  have absent := (absent_of_entry (walk_vacant lands)).2
  rw [put_absent absent]
  refine ⟨⟨[(place, .directory)], rfl, by simp⟩, ?_⟩
  intro distinct
  rw [List.map_append, List.map_singleton, ← List.concat_eq_append]
  exact distinct.concat absent

/-- What the making of one directory keeps, the making of all of them keeps. In the end the path leads
to a directory that was there, or to the one that was made last. -/
theorem make_directories_keeps {Keeps : FileTree → Prop} {tree made : FileTree}
    {names : List String}
    (step : ∀ {before after : FileTree} {path : List String}, path ⊆ names →
      before.makeDirectory path = .ok after → Keeps before → Keeps after)
    (start : Keeps tree) (makes : tree.makeDirectories names = .ok made) :
    Keeps made ∧ (names = [] ∨ made.isDirectory names.reverse = true ∨
      ∃ before, Keeps before ∧ before.makeDirectory names.reverse = .ok made) := by
  induction names generalizing made with
  | nil =>
      cases makes
      exact ⟨start, .inl rfl⟩
  | cons name above induction =>
      have whole : (name :: above).reverse ⊆ name :: above :=
        fun other listed => List.mem_reverse.mp listed
      have earlier : ∀ {prepared}, tree.makeDirectories above = .ok prepared → Keeps prepared := by
        intro prepared prepares
        refine (induction ?_ prepares).1
        intro before after path inside
        exact step fun other listed => List.mem_cons_of_mem name (inside listed)
      rw [makeDirectories] at makes
      dsimp only at makes
      split at makes
      · rename_i made' makesLast
        cases makes
        exact ⟨step whole makesLast start, .inr (.inr ⟨tree, start, makesLast⟩)⟩
      · split at makes
        · cases makes
        · rename_i prepared prepares
          split at makes
          · rename_i finished finishes
            cases makes
            exact ⟨step whole finishes (earlier prepares),
              .inr (.inr ⟨prepared, earlier prepares, finishes⟩)⟩
          · cases makes
          · split at makes
            · rename_i there
              cases makes
              exact ⟨earlier prepares, .inr (.inl there)⟩
            · cases makes
      · split at makes
        · rename_i there
          cases makes
          exact ⟨start, .inr (.inl there)⟩
        · cases makes

theorem make_directories_furnishes {tree made : FileTree} {names : List String}
    (makes : tree.makeDirectories names = .ok made) : Furnished tree made :=
  (@make_directories_keeps (Furnished tree) tree made names
    (fun _ makesOne before => before.trans (make_directory_furnishes makesOne))
    (.refl tree) makes).1

end RpgSymbols.FileTree
