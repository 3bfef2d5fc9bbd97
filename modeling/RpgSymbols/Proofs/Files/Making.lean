import RpgSymbols.Proofs.Files.Lexical

/-!
Making directories and writing a file into the last of them. Once directories are made the path leads
to one, through whatever links. A tree without links stays one, and doing both once more changes
nothing there.
-/

namespace RpgSymbols.FileTree

open Text

variable {tree made : FileTree} {names : List String} {directory : Place}

theorem is_directory_iff : tree.isDirectory names = true ↔
    hasNull names = false ∧ ∃ place, tree.locate names = .ok place ∧
      tree.isDirectoryAt place = true := by
  rw [isDirectory, find?]
  cases hasNull names with
  | true => simp
  | false =>
      cases tree.locate names with
      | error reason => simp [Except.toOption]
      | ok place => simp [Except.toOption, isDirectoryAt]

/-- A free place where a walk ends is in a directory, and its name is one of the path. -/
theorem advance_vacant_child {here place : Place}
    (lands : tree.advance here names = .landed (.vacant place)) :
    ∃ directory name, place = directory ++ [name] ∧ tree.isDirectoryAt directory = true ∧
      PlainName name ∧ name ∈ names := by
  have onward : ∀ {first : String} {rest : List String},
      (∃ directory name, place = directory ++ [name] ∧ tree.isDirectoryAt directory = true ∧
        PlainName name ∧ name ∈ rest) →
      ∃ directory name, place = directory ++ [name] ∧ tree.isDirectoryAt directory = true ∧
        PlainName name ∧ name ∈ first :: rest := by
    rintro first rest ⟨directory, name, same, inside, plain, listed⟩
    exact ⟨directory, name, same, inside, plain, List.mem_cons_of_mem first listed⟩
  fun_induction tree.advance here names with
  | case1 here => cases lands
  | case2 here name rest blocked => cases lands
  | case3 here name rest inside stays induction => exact onward (induction lands)
  | case4 here rest inside moves induction => exact onward (induction lands)
  | case5 here name rest inside moves climbs next free last =>
      injection lands with landing
      injection landing with same
      simp only [Bool.or_eq_true, decide_eq_true_eq, not_or] at moves
      exact ⟨here, name, same.symm, inside_iff.mp inside, ⟨moves.1, moves.2, climbs⟩,
        List.mem_cons_self⟩
  | case6 here name rest inside moves climbs next free more => cases lands
  | case7 here name rest inside moves climbs next target linked => cases lands
  | case8 here name rest inside moves climbs next entry plain found induction =>
      exact onward (induction lands)

/-- What is put at a free place of a directory grows the tree and leaves it without links. -/
theorem Linkless.put (linkless : tree.Linkless) (inside : tree.isDirectoryAt directory = true)
    {name : String} (plain : PlainName name) (free : SlashFree name) (whole : hasNull [name] = false)
    (absent : tree.entry? (directory ++ [name]) = none) {entry : Entry}
    (straight : ∀ target, entry ≠ .link target) :
    (tree.put (directory ++ [name]) entry).Linkless := by
  have unlisted := (absent_of_entry absent).2
  rw [put_absent unlisted]
  have grows : Grown tree ⟨tree.entries ++ [(directory ++ [name], entry)]⟩ := extended_grown rfl
  have stands : (tree.entry? ([] ++ directory)).isSome = true := by
    rw [isDirectoryAt, beq_iff_eq] at inside
    rw [List.nil_append, inside]
    rfl
  have concat : ∀ {holds : Place × Entry → Prop}, (∀ old ∈ tree.entries, holds old) →
      holds (directory ++ [name], entry) →
      ∀ old ∈ tree.entries ++ [(directory ++ [name], entry)], holds old := by
    intro holds before last old listed
    rcases List.mem_append.mp listed with earlier | new
    · exact before old earlier
    · exact List.mem_singleton.mp new ▸ last
  constructor
  · constructor
    · constructor
      · rw [List.map_append, List.map_singleton, ← List.concat_eq_append]
        exact linkless.distinct.concat unlisted
      · apply concat linkless.slashFree
        intro other listed
        rcases List.mem_append.mp listed with above | last
        · exact (path_names_of_entry linkless.toGrounded stands other above).2
        · exact List.mem_singleton.mp last ▸ free
    · exact concat linkless.plain ((plain_of_entry linkless.toGrounded stands).child plain)
    · apply concat fun old listed => directory_grown grows (linkless.held old listed)
      rw [List.dropLast_concat]
      exact directory_grown grows inside
  · apply concat linkless.whole
    rw [hasNull, List.any_append, Bool.or_eq_false_iff]
    exact ⟨whole_of_entry linkless.whole stands, whole⟩
  · exact concat linkless.unlinked straight

theorem whole_name {name : String} (whole : hasNull names = false) (listed : name ∈ names) :
    hasNull [name] = false := by
  rw [hasNull, List.any_eq_false] at whole ⊢
  intro other only
  exact List.mem_singleton.mp only ▸ whole name listed

/-- Where a walk that leaves a link at its end alone finds a free place, one that follows it does. -/
theorem walk_vacant_followed {budget : Nat} {here place : Place}
    (lands : tree.walk false budget here names = .ok (.vacant place)) :
    tree.walk true budget here names = .ok (.vacant place) := by
  fun_induction tree.walk false budget here names with
  | case1 budget here names landing halts =>
      cases lands
      rw [walk, halts]
  | case2 budget here names error halts => cases lands
  | case3 budget here names directory name target rest halts ends => cases lands
  | case4 here names directory name target rest halts continues => cases lands
  | case5 here names directory name target rest halts continues budget induction =>
      rw [walk, halts]
      simpa using induction lands

theorem make_directory_arrives (makes : tree.makeDirectory names = .ok made) :
    ∃ place, made.locate names = .ok place ∧ made.isDirectoryAt place = true := by
  obtain ⟨place, lands, rfl⟩ := make_directory_iff.mp makes
  have absent := walk_vacant lands
  have walked := walk_filled absent .directory (by simp) (walk_vacant_followed lands)
  rw [Landing.filled, if_pos rfl] at walked
  have stands := entry_put tree (absent_of_entry absent).1 .directory place
  rw [if_pos rfl] at stands
  refine ⟨place, ?_, ?_⟩
  · rw [locate, walked]
  · rw [isDirectoryAt, stands]
    rfl

/-- Once they are made, the path leads to a directory, whatever links it leads through. -/
theorem make_directories_arrive (makes : tree.makeDirectories names.reverse = .ok made) :
    ∃ place, made.locate names = .ok place ∧ made.isDirectoryAt place = true := by
  have arrives := (@make_directories_keeps (fun _ => True) _ _ _ (fun _ _ _ => trivial) trivial makes).2
  rw [List.reverse_reverse] at arrives
  rcases arrives with nothing | there | ⟨before, _, makesLast⟩
  · rw [List.reverse_eq_nil_iff.mp nothing]
    exact ⟨[], rfl, rfl⟩
  · exact (is_directory_iff.mp there).2
  · exact make_directory_arrives makesLast

section Making

variable (linkless : tree.Linkless) (free : ∀ name ∈ names, SlashFree name)
  (whole : hasNull names = false)
include linkless free whole

theorem make_directory_linkless (makes : tree.makeDirectory names = .ok made) : made.Linkless := by
  obtain ⟨place, lands, rfl⟩ := make_directory_iff.mp makes
  have absent := walk_vacant lands
  rw [walk] at lands
  split at lands
  · rename_i landing halts
    cases lands
    obtain ⟨directory, name, rfl, inside, plain, listed⟩ := advance_vacant_child halts
    exact linkless.put inside plain (free name listed) (whole_name whole listed) absent (by simp)
  · cases lands
  · rename_i directory name target rest halts
    rcases advance_unlinked linkless.unlinked [] names with ⟨_, other⟩ | ⟨_, other, _⟩
    · cases halts.symm.trans other
    · cases halts.symm.trans other

theorem make_directories_linkless (makes : tree.makeDirectories names.reverse = .ok made) :
    made.Linkless := by
  refine (make_directories_keeps ?_ linkless makes).1
  intro before after path inside makesOne linkless
  have listed : ∀ name ∈ path, name ∈ names := fun name held => List.mem_reverse.mp (inside held)
  have wholePath : hasNull path = false := by
    rw [hasNull, List.any_eq_false] at whole ⊢
    exact fun name held => whole name (listed name held)
  exact make_directory_linkless linkless (fun name held => free name (listed name held)) wholePath
    makesOne

end Making

theorem walk_present_unfollowed {budget : Nat} {here place : Place}
    (lands : tree.walk true budget here names = .ok (.present place)) :
    ∃ other, tree.walk false budget here names = .ok (.present other) := by
  fun_induction tree.walk true budget here names with
  | case1 budget here names landing halts =>
      cases lands
      exact ⟨place, by rw [walk, halts]⟩
  | case2 budget here names error halts => cases lands
  | case3 budget here names directory name target rest halts ends => simp at ends
  | case4 here names directory name target rest halts continues => cases lands
  | case5 here names directory name target rest halts continues budget induction =>
      rw [walk, halts]
      by_cases last : rest.isEmpty = true
      · exact ⟨directory ++ [name], by simp [last]⟩
      · simpa [last] using induction lands

/-- Directories that are there are not made again. -/
theorem make_directories_again (there : tree.isDirectory names = true) :
    tree.makeDirectories names.reverse = .ok tree := by
  by_cases top : names = []
  · rw [top]
    rfl
  · obtain ⟨name, above, same⟩ := List.exists_cons_of_ne_nil (mt List.reverse_eq_nil_iff.mp top)
    obtain ⟨_, place, locates, _⟩ := is_directory_iff.mp there
    have already : tree.makeDirectory names = .error .exists := by
      unfold locate at locates
      split at locates
      · rename_i found lands
        obtain ⟨other, walks⟩ := walk_present_unfollowed lands
        rw [makeDirectory, walks]
      · cases locates
      · cases locates
    rw [same, makeDirectories, ← same, List.reverse_reverse, already]
    exact if_pos there

/-! Writing a file. -/

/-- What is there already is not changed by being put there. -/
theorem put_held (linkless : tree.Linkless) {place : Place} (named : place ≠ []) {entry : Entry}
    (found : tree.entry? place = some entry) : tree.put place entry = tree := by
  have listed := place_of_entry named found
  rw [put_present (List.mem_map_of_mem (f := Prod.fst) listed)]
  have kept : tree.entries.map (fun old => if old.1 == place then (place, entry) else old) =
      tree.entries.map id := by
    apply List.map_congr_left
    rintro ⟨here, old⟩ held
    by_cases same : here = place
    · subst same
      have stands := entry_of_listed linkless.toGrounded named held
      simp [Option.some.inj (found.symm.trans stands)]
    · simp [same]
  rw [kept, List.map_id]

section Writing

variable (linkless : tree.Linkless) (locates : tree.locate names = .ok directory)
  (inside : tree.isDirectoryAt directory = true) {name : String} (plain : PlainName name)
include linkless locates inside plain

theorem walk_below : tree.walk true linkLimit [] (names ++ [name]) =
    .ok (if (tree.entry? (directory ++ [name])).isSome then .present (directory ++ [name])
      else .vacant (directory ++ [name])) := by
  obtain ⟨links, bound, leads⟩ := locate_iff.mp locates
  have onward := walk_of_leads leads (linkLimit - links) [name]
  rw [Nat.add_sub_cancel' bound] at onward
  rw [onward]
  cases found : tree.entry? (directory ++ [name]) with
  | none =>
      rw [walk, advance_free (inside_iff.mpr inside) (moves_of_plain plain) plain.descends found]
      rfl
  | some entry =>
      have straight : ∀ target, entry ≠ .link target := by
        rintro target rfl
        exact no_link linkless.unlinked _ target found
      rw [walk_enter true _ inside plain found straight, walk, advance]
      rfl

theorem write_below (bytes : List UInt8) : tree.write (names ++ [name]) bytes =
    if tree.isDirectoryAt (directory ++ [name]) then .error .isDirectory
    else .ok (tree.put (directory ++ [name]) (.file bytes)) := by
  rw [write, walk_below linkless locates inside plain]
  cases found : tree.entry? (directory ++ [name]) with
  | none => simp [isDirectoryAt, found]
  | some entry => simp

/-- The path leads to what was written. -/
theorem locate_written {bytes : List UInt8} {written : FileTree}
    (writes : tree.write (names ++ [name]) bytes = .ok written) :
    written = tree.put (directory ++ [name]) (.file bytes) ∧
      written.locate (names ++ [name]) = .ok (directory ++ [name]) := by
  have lands := walk_below linkless locates inside plain
  rw [write_below linkless locates inside plain] at writes
  split at writes
  · cases writes
  · rename_i noDirectory
    cases writes
    refine ⟨rfl, ?_⟩
    cases found : tree.entry? (directory ++ [name]) with
    | none =>
        have walked := walk_filled found (.file bytes) (by simp) lands
        simp only [found, Option.isSome_none, Bool.false_eq_true, if_false, Landing.filled,
          if_true] at walked
        rw [locate, walked]
    | some entry =>
        cases entry with
        | directory => exact absurd (by simp [isDirectoryAt, found]) noDirectory
        | link target => exact absurd found (no_link linkless.unlinked _ target)
        | file old =>
            rw [found] at lands
            rw [locate, walk_replaced found, lands]
            rfl

end Writing

/-! What leads elsewhere than to a new file led there before. -/

section Filled

variable {place other : Place} (absent : tree.entry? place = none) {bytes : List UInt8} {links : Nat}
  {here : Place}
include absent

theorem directory_unfilled :
    (tree.put place (.file bytes)).isDirectoryAt here = tree.isDirectoryAt here := by
  rw [isDirectoryAt, entry_put tree (absent_of_entry absent).1]
  split
  · rename_i same
    rw [same, isDirectoryAt, absent]
    rfl
  · rfl

theorem leads_from_filled (leads : (tree.put place (.file bytes)).Leads links place names other) :
    other = place := by
  have blocked : ¬(tree.put place (.file bytes)).isDirectoryAt place = true := by
    rw [directory_unfilled absent, isDirectoryAt, absent]
    decide
  cases leads with
  | arrived => rfl
  | stay inside _ _ => exact absurd inside blocked
  | climb inside _ => exact absurd inside blocked
  | enter inside _ _ _ _ => exact absurd inside blocked
  | follow inside _ _ _ _ => exact absurd inside blocked

theorem leads_unfilled (leads : (tree.put place (.file bytes)).Leads links here names other)
    (elsewhere : other ≠ place) : tree.Leads links here names other := by
  have before : ∀ {there : Place} {entry : Entry}, there ≠ place →
      entry? (tree.put place (.file bytes)) there = some entry → tree.entry? there = some entry := by
    intro there entry differs found
    rwa [entry_put tree (absent_of_entry absent).1, if_neg differs] at found
  induction leads with
  | arrived here => exact .arrived here
  | stay inside stays _ induction =>
      rw [directory_unfilled absent] at inside
      exact .stay inside stays (induction elsewhere)
  | climb inside _ induction =>
      rw [directory_unfilled absent] at inside
      exact .climb inside (induction elsewhere)
  | @enter links here other name rest entry inside plain found straight later induction =>
      rw [directory_unfilled absent] at inside
      have differs : here ++ [name] ≠ place := by
        intro same
        rw [same] at later
        exact elsewhere (leads_from_filled absent later)
      exact .enter inside plain (before differs found) straight (induction elsewhere)
  | @follow inner outer here middle other name target rest inside plain found aside later
      innerInduction outerInduction =>
      rw [directory_unfilled absent] at inside
      have differs : here ++ [name] ≠ place := by
        intro same
        rw [same, entry_put tree (absent_of_entry absent).1, if_pos rfl] at found
        cases found
      have between : middle ≠ place := by
        intro same
        rw [same] at later
        exact elsewhere (leads_from_filled absent later)
      exact .follow inside plain (before differs found) (innerInduction between)
        (outerInduction elsewhere)

theorem locate_unfilled (locates : (tree.put place (.file bytes)).locate names = .ok other)
    (elsewhere : other ≠ place) : tree.locate names = .ok other := by
  obtain ⟨links, bound, leads⟩ := locate_iff.mp locates
  exact locate_iff.mpr ⟨links, bound, leads_unfilled absent leads elsewhere⟩

end Filled

end RpgSymbols.FileTree
