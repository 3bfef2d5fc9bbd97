import RpgSymbols.Proofs.Files.Containment
import RpgSymbols.Proofs.Files.Selection

/-!
What can be seen from a directory. Two trees look alike from a place if every path below it, links
followed, leads to the same place, where the same entry stands and the same names are listed. A
source on either tree then serves the same stream files. A tree that grows keeps what its paths lead
to; so if it looks the same before and after, it looked the same at any time in between.
-/

namespace RpgSymbols

open Text

namespace FileTree

/-- A regular tree as it is on a disk: names stand for entries, and entries are in directories. -/
structure Grounded (tree : FileTree) : Prop extends Regular tree where
  plain : ∀ entry ∈ tree.entries, PlainPlace entry.1
  held : ∀ entry ∈ tree.entries, tree.isDirectoryAt entry.1.dropLast = true

/-- What a path leads to: the place, the entry there and the names listed in it. -/
def seen (tree : FileTree) (names : List String) : Option (Place × Entry × List String) :=
  match tree.locate names with
  | .ok place => (tree.entry? place).map fun entry => (place, entry, tree.namesIn place)
  | .error _ => none

/-- Every path below a place leads to the same in both trees. -/
def LooksAlike (top : Place) (one other : FileTree) : Prop :=
  ∀ names, PlainPlace names → one.seen (top ++ names) = other.seen (top ++ names)

theorem LooksAlike.symm {top : Place} {one other : FileTree} (alike : LooksAlike top one other) :
    LooksAlike top other one :=
  fun names plain => (alike names plain).symm

section Seen

variable {tree : FileTree} {names : List String} {place : Place}

theorem entry_of_located (locates : tree.locate names = .ok place) :
    ∃ entry, tree.entry? place = some entry := by
  obtain ⟨entry, found, _⟩ := (leads_of_located locates).1.plain
  exact ⟨entry, found⟩

theorem seen_iff {entry : Entry} {listed : List String} :
    tree.seen names = some (place, entry, listed) ↔
      tree.locate names = .ok place ∧ tree.entry? place = some entry ∧
        tree.namesIn place = listed := by
  unfold seen
  cases tree.locate names with
  | error reason => simp
  | ok found =>
      simp only [Option.map_eq_some_iff, Prod.mk.injEq, Except.ok.injEq]
      constructor
      · rintro ⟨entry, stands, rfl, rfl, rfl⟩
        exact ⟨rfl, stands, rfl⟩
      · rintro ⟨rfl, stands, rfl⟩
        exact ⟨entry, stands, rfl, rfl, rfl⟩

theorem located_iff_seen :
    tree.locate names = .ok place ↔ ∃ entry listed, tree.seen names = some (place, entry, listed) := by
  constructor
  · intro locates
    obtain ⟨entry, found⟩ := entry_of_located locates
    exact ⟨entry, _, seen_iff.mpr ⟨locates, found, rfl⟩⟩
  · rintro ⟨entry, listed, sees⟩
    exact (seen_iff.mp sees).1

theorem read_iff_seen {bytes : List UInt8} :
    tree.read names = .ok bytes ↔
      ∃ place listed, tree.seen names = some (place, .file bytes, listed) := by
  rw [read_iff]
  constructor
  · rintro ⟨place, locates, found⟩
    exact ⟨place, _, seen_iff.mpr ⟨locates, found, rfl⟩⟩
  · rintro ⟨place, listed, sees⟩
    obtain ⟨locates, found, _⟩ := seen_iff.mp sees
    exact ⟨place, locates, found⟩

theorem find_eq_seen :
    tree.find? names =
      if hasNull names then none else (tree.seen names).map fun found => found.2.1 := by
  rw [find?, seen]
  cases tree.locate names with
  | error reason => rfl
  | ok place => simp [Except.toOption, Function.comp_def]

theorem listing_eq_seen (root : List String) :
    (LocalSource.mk tree root).listing names =
      ((tree.seen names).map fun found => found.2.2).getD [] := by
  rw [LocalSource.listing, seen]
  cases locates : tree.locate names with
  | error reason => rfl
  | ok place =>
      obtain ⟨entry, found⟩ := entry_of_located locates
      simp [found]

theorem mem_names_in {name : String} (listed : name ∈ tree.namesIn place) :
    ∃ entry ∈ tree.entries, name ∈ entry.1 := by
  rw [namesIn, List.mem_mergeSort] at listed
  obtain ⟨entry, held, last⟩ := List.mem_filterMap.mp listed
  split at last
  · exact ⟨entry, held, List.mem_of_getLast? last⟩
  · cases last

end Seen

/-! Trees that grow. -/

/-- Entries are added, and files may get other bytes. -/
structure Grown (before later : FileTree) : Prop where
  places : before.entries.map Prod.fst <+: later.entries.map Prod.fst
  kept : ∀ {place entry}, before.entry? place = some entry → (∀ bytes, entry ≠ .file bytes) →
    later.entry? place = some entry
  files : ∀ {place bytes}, before.entry? place = some (.file bytes) →
    ∃ others, later.entry? place = some (.file others)

section Growth

variable {before later : FileTree} (grows : Grown before later)
include grows

theorem directory_grown {here : Place} (inside : before.isDirectoryAt here = true) :
    later.isDirectoryAt here = true := by
  simp only [isDirectoryAt, beq_iff_eq] at inside ⊢
  exact grows.kept inside (by simp)

theorem Leads.grown {links : Nat} {here place : Place} {names : List String}
    (leads : before.Leads links here names place) : later.Leads links here names place := by
  induction leads with
  | arrived here => exact .arrived here
  | stay inside stays _ induction => exact .stay (directory_grown grows inside) stays induction
  | climb inside _ induction => exact .climb (directory_grown grows inside) induction
  | @enter links here place name rest entry inside plain found unlinked _ induction =>
      have directory := directory_grown grows inside
      cases entry with
      | file bytes =>
          obtain ⟨others, stands⟩ := grows.files found
          exact .enter directory plain stands (by simp) induction
      | directory => exact .enter directory plain (grows.kept found (by simp)) (by simp) induction
      | link target => exact absurd rfl (unlinked target)
  | follow inside plain found _ _ inner outer =>
      exact .follow (directory_grown grows inside) plain (grows.kept found (by simp)) inner outer

theorem locate_grown {names : List String} {place : Place}
    (locates : before.locate names = .ok place) : later.locate names = .ok place := by
  obtain ⟨links, bound, leads⟩ := locate_iff.mp locates
  exact locate_iff.mpr ⟨links, bound, leads.grown grows⟩

end Growth

theorem entry_extended {before later : FileTree} {more : List (Place × Entry)}
    (extended : later.entries = before.entries ++ more) {place : Place} {entry : Entry}
    (found : before.entry? place = some entry) : later.entry? place = some entry := by
  unfold entry? at found ⊢
  split at found
  case isTrue top => rw [if_pos top, found]
  case isFalse below =>
    obtain ⟨old, first, rfl⟩ := Option.map_eq_some_iff.mp found
    rw [if_neg below, extended, List.find?_append, first]
    rfl

theorem extended_grown {before later : FileTree} {more : List (Place × Entry)}
    (extended : later.entries = before.entries ++ more) : Grown before later := by
  refine ⟨?_, fun found _ => entry_extended extended found,
    fun found => ⟨_, entry_extended extended found⟩⟩
  rw [extended, List.map_append]
  exact List.prefix_append _ _

theorem Furnished.grown {before later : FileTree} (furnished : Furnished before later) :
    Grown before later := by
  obtain ⟨more, extended, _⟩ := furnished.added
  exact extended_grown extended

theorem place_of_entry {tree : FileTree} {place : Place} (named : place ≠ []) {entry : Entry}
    (found : tree.entry? place = some entry) : (place, entry) ∈ tree.entries := by
  rw [ entry?, if_neg (by simpa using named)] at found
  obtain ⟨⟨here, _⟩, first, rfl⟩ := Option.map_eq_some_iff.mp found
  have same : here = place := by simpa using List.find?_some first
  exact same ▸ List.mem_of_find?_eq_some first

/-- What takes the place of another entry adds no place. -/
theorem places_replaced {tree : FileTree} {place : Place} (present : place ∈ tree.entries.map Prod.fst)
    (entry : Entry) : (tree.put place entry).entries.map Prod.fst = tree.entries.map Prod.fst := by
  rw [put_present present, List.map_map]
  apply List.map_congr_left
  intro old _
  by_cases here : old.1 = place
  · simp [here]
  · simp [here]

theorem write_grows {before later : FileTree} {names : List String} {bytes : List UInt8}
    (writes : before.write names bytes = .ok later) : Grown before later := by
  unfold write at writes
  split at writes
  · rename_i place lands
    cases writes
    have free := walk_vacant lands
    refine ⟨?_, fun found _ => entry_filled free (.file bytes) found,
      fun found => ⟨_, entry_filled free (.file bytes) found⟩⟩
    rw [put_absent (absent_of_entry free).2, List.map_append]
    exact List.prefix_append _ _
  · rename_i place lands
    split at writes
    · cases writes
    · rename_i plain
      cases writes
      obtain ⟨entry, stands, unlinked⟩ := (walk_reached (reached_top before) lands).plain
      cases entry with
      | directory => exact absurd (by simp [isDirectoryAt, stands]) plain
      | link target => exact absurd rfl (unlinked target)
      | file old =>
          refine ⟨?_, ?_, ?_⟩
          · have held := place_of_entry (named_of_file stands) stands
            have same := places_replaced (List.mem_map.mpr ⟨_, held, rfl⟩) (.file bytes)
            exact same ▸ List.prefix_rfl
          · intro other entry found plain
            rcases entry_replaced stands bytes other with same | ⟨other, file, _⟩
            · exact same.trans found
            · exact absurd (Option.some.inj (found.symm.trans file)) (plain other)
          · intro other held found
            rcases entry_replaced stands bytes other with same | ⟨_, _, file⟩
            · exact ⟨held, same.trans found⟩
            · exact ⟨bytes, file⟩
  · cases writes

theorem names_in_eq (tree : FileTree) (place : Place) :
    tree.namesIn place =
      ((tree.entries.map Prod.fst).filterMap fun names =>
        if names.dropLast == place then names.getLast? else none).mergeSort fun one other =>
          one ≤ other := by
  rw [namesIn, List.filterMap_map]
  rfl

section Between

variable {before made later : FileTree} (furnished : Furnished before made)
  (grown : Grown made later)
include furnished grown

theorem names_in_between {place : Place} (same : before.namesIn place = later.namesIn place) :
    before.namesIn place = made.namesIn place := by
  rw [names_in_eq, names_in_eq] at same ⊢
  generalize (fun names : Place => if names.dropLast == place then names.getLast? else none) = child
    at same ⊢
  have first := furnished.grown.places.filterMap child
  have second := grown.places.filterMap child
  have counted := congrArg List.length same
  rw [List.length_mergeSort, List.length_mergeSort] at counted
  rw [first.eq_of_length (Nat.le_antisymm first.length_le (counted ▸ second.length_le))]

/-- A tree that looks the same after directories were made and a file was written looked the same
when only the directories were made. -/
theorem alike_between {top : Place} (alike : LooksAlike top before later) :
    LooksAlike top before made := by
  intro names plain
  have same := alike names plain
  cases located : made.locate (top ++ names) with
  | ok place =>
      obtain ⟨entry, listed, sees⟩ := located_iff_seen.mp (locate_grown grown located)
      have seenBefore := same.trans sees
      obtain ⟨locates, found, here⟩ := seen_iff.mp seenBefore
      obtain ⟨more, extended, _⟩ := furnished.added
      have stands := entry_extended extended found
      have names := names_in_between furnished grown (here.trans (seen_iff.mp sees).2.2.symm)
      exact seenBefore.trans (seen_iff.mpr ⟨located, stands, names.symm.trans here⟩).symm
  | error reason =>
      cases before_located : before.locate (top ++ names) with
      | ok place =>
          have arrives := locate_grown furnished.grown before_located
          rw [located] at arrives
          cases arrives
      | error _ => rw [seen, seen, located, before_located]

end Between

/-! Sources of a grounded tree. -/

section Below

variable {tree : FileTree} (grounded : tree.Grounded) {place : Place} {names : List String}
include grounded

theorem entry_of_listed {entry : Entry} (named : place ≠ []) (listed : (place, entry) ∈ tree.entries) :
    tree.entry? place = some entry := by
  rw [ entry?, if_neg (by simpa using named), Option.map_eq_some_iff]
  refine ⟨(place, entry), ?_, rfl⟩
  cases first : tree.entries.find? fun old => old.1 == place with
  | none => exact absurd (by simp) (List.find?_eq_none.mp first _ listed)
  | some old =>
      have same : old.1 = place := by simpa using List.find?_some first
      have held := List.mem_of_find?_eq_some first
      rw [List.inj_on_of_nodup_map grounded.distinct held listed same]

/-- What is listed below a place is where the names behind the place lead, one directory after the
other. -/
theorem leads_below {entry : Entry} (listed : (place ++ names, entry) ∈ tree.entries)
    (unlinked : ∀ target, entry ≠ .link target) : tree.Leads 0 place names (place ++ names) := by
  induction names using List.reverseRecOn generalizing entry with
  | nil =>
      rw [List.append_nil]
      exact .arrived place
  | append_singleton above name induction =>
      rw [← List.append_assoc] at listed ⊢
      have found := entry_of_listed grounded (by simp) listed
      have inside := grounded.held _ listed
      have plain := grounded.plain _ listed name (List.mem_append_right _ (List.mem_singleton_self _))
      rw [List.dropLast_concat] at inside
      have last : tree.Leads 0 (place ++ above) [name] (place ++ above ++ [name]) :=
        .enter inside plain found unlinked (.arrived _)
      by_cases direct : above = []
      · subst direct
        simpa using last
      · have directory : tree.entry? (place ++ above) = some .directory := by
          simpa [isDirectoryAt] using inside
        have parent := place_of_entry (by simp [direct]) directory
        exact (induction parent (by simp)).append last

/-- From a place that a path leads to, the names of what is listed below it lead on to that. -/
theorem locate_listed {root : List String} {entry : Entry} (rooted : tree.locate root = .ok place)
    (listed : (place ++ names, entry) ∈ tree.entries) (unlinked : ∀ target, entry ≠ .link target) :
    tree.locate (root ++ names) = .ok (place ++ names) := by
  obtain ⟨links, bound, leads⟩ := locate_iff.mp rooted
  exact locate_iff.mpr ⟨links + 0, bound, leads.append (leads_below grounded listed unlinked)⟩

end Below

/-! Places without links below them. -/

theorem Leads.straight {tree : FileTree} {top : Place}
    (unlinked : ∀ entry ∈ tree.entries, top <+: entry.1 → ∀ target, entry.2 ≠ .link target)
    {links : Nat} {here place : Place} {names : List String}
    (leads : tree.Leads links here names place) (plain : PlainPlace names) (below : top <+: here) :
    links = 0 ∧ place = here ++ names := by
  induction leads with
  | arrived here => exact ⟨rfl, (List.append_nil here).symm⟩
  | stay _ stays _ _ =>
      have named := plain _ List.mem_cons_self
      exact absurd stays (not_or.mpr ⟨named.named, named.moves⟩)
  | climb _ _ _ => exact absurd rfl (plain _ List.mem_cons_self).descends
  | enter _ _ _ _ _ induction =>
      obtain ⟨straight, rfl⟩ := induction
        (fun name listed => plain name (List.mem_cons_of_mem _ listed))
        (below.trans (List.prefix_append _ _))
      exact ⟨straight, List.append_assoc _ _ _⟩
  | follow _ _ found _ _ _ _ =>
      exact absurd rfl (unlinked _ (place_of_entry (by simp) found)
        (below.trans (List.prefix_append _ _)) _)

section Outside

variable {before later : FileTree} {top : Place} {more : List (Place × Entry)}
  (extended : later.entries = before.entries ++ more)
  (outside : ∀ entry ∈ more, ¬ top <+: entry.1)
include extended outside

theorem entry_outside {place : Place} (below : top <+: place) :
    later.entry? place = before.entry? place := by
  have unlisted : (more.find? fun old => old.1 == place) = none := by
    rw [List.find?_eq_none]
    intro entry listed same
    have here : entry.1 = place := by simpa using same
    exact outside entry listed (here ▸ below)
  rw [ entry?, entry?, extended, List.find?_append, unlisted, Option.or_none]

theorem names_in_outside {place : Place} (below : top <+: place) :
    later.namesIn place = before.namesIn place := by
  have unlisted : (more.filterMap fun entry =>
      if entry.1.dropLast == place then entry.1.getLast? else none) = [] := by
    rw [List.filterMap_eq_nil_iff]
    intro entry listed
    rw [if_neg]
    intro same
    have parent : entry.1.dropLast = place := by simpa using same
    exact outside entry listed (below.trans (parent ▸ List.dropLast_prefix entry.1))
  rw [namesIn, namesIn, extended, List.filterMap_append, unlisted, List.append_nil]

theorem leads_outside (unlinked : ∀ entry ∈ later.entries, ∀ target, entry.2 ≠ .link target)
    {links : Nat} {here place : Place} {names : List String}
    (leads : later.Leads links here names place) (plain : PlainPlace names) (below : top <+: here) :
    before.Leads links here names place := by
  induction leads with
  | arrived here => exact .arrived here
  | stay _ stays _ _ =>
      have named := plain _ List.mem_cons_self
      exact absurd stays (not_or.mpr ⟨named.named, named.moves⟩)
  | climb _ _ _ => exact absurd rfl (plain _ List.mem_cons_self).descends
  | @enter links here place name rest entry inside named found straight _ induction =>
      have inner : top <+: here ++ [name] := below.trans (List.prefix_append _ _)
      have later := induction (fun name listed => plain name (List.mem_cons_of_mem _ listed)) inner
      rw [isDirectoryAt, entry_outside extended outside below] at inside
      rw [entry_outside extended outside inner] at found
      exact .enter inside named found straight later
  | follow _ _ found _ _ _ _ =>
      exact absurd rfl (unlinked _ (place_of_entry (by simp) found) _)

/-- Without links, nothing is seen from a place of what is added elsewhere. -/
theorem alike_outside (unlinked : ∀ entry ∈ later.entries, ∀ target, entry.2 ≠ .link target)
    (rooted : before.locate top = .ok top) : LooksAlike top before later := by
  intro names plain
  have grows := extended_grown extended
  obtain ⟨_, topPlain, topLeads⟩ := leads_of_located rooted
  have back : ∀ place, later.locate (top ++ names) = .ok place →
      before.locate (top ++ names) = .ok place ∧ top <+: place := by
    intro place locates
    obtain ⟨links, bound, leads⟩ := locate_iff.mp locates
    obtain ⟨inner, outer, middle, counted, first, second⟩ := leads.of_append
    obtain ⟨_, rfl⟩ := first.unique (topLeads.grown grows)
    obtain ⟨_, rfl⟩ :=
      second.straight (fun entry listed _ => unlinked entry listed) plain List.prefix_rfl
    have last := leads_outside extended outside unlinked second plain List.prefix_rfl
    exact ⟨locate_iff.mpr ⟨0 + outer, by omega, topLeads.append last⟩, List.prefix_append _ _⟩
  cases located : later.locate (top ++ names) with
  | ok place =>
      obtain ⟨locates, below⟩ := back place located
      rw [seen, seen, located, locates]
      simp only [entry_outside extended outside below, names_in_outside extended outside below]
  | error reason =>
      cases locatedBefore : before.locate (top ++ names) with
      | ok place =>
          rw [locate_grown grows locatedBefore] at located
          cases located
      | error _ => rw [seen, seen, located, locatedBefore]

end Outside

end FileTree

/-! Serving from trees that look alike. -/

namespace LocalSource

variable {top : Place} {one other : FileTree} {names : List String}

theorem join_plain_name {name : String} (plain : FileTree.PlainName name) (free : SlashFree name)
    (directory : List String) : joinNames directory name = directory ++ [name] := by
  have relative : ¬ startsWith name "/" = true := by
    intro starts
    have first : "/".toList <+: name.toList := List.isPrefixOf_iff_prefix.mp starts
    exact free (first.subset (by decide))
  have single : ∀ part ∈ [name], SlashFree part := by simpa using free
  have alone : split '/' name = [name] := split_join (List.cons_ne_nil name []) single
  rw [joinNames, if_neg relative, pathNames, alone]
  simp [plain.named, plain.moves]

theorem child_plain (grounded : one.Grounded) {name : String} (plain : FileTree.PlainName name)
    (free : SlashFree name) {found : List String}
    (child : (LocalSource.mk one top).child? names name = some found) :
    ∃ last, FileTree.PlainName last ∧ found = names ++ [last] := by
  simp only [child?, join_plain_name plain free] at child
  split at child
  · cases child
    exact ⟨name, plain, rfl⟩
  · obtain ⟨last, first, rfl⟩ := Option.map_eq_some_iff.mp child
    refine ⟨last, ?_, rfl⟩
    have listed := List.mem_of_find?_eq_some first
    unfold listing at listed
    split at listed
    · obtain ⟨entry, held, inside⟩ := FileTree.mem_names_in listed
      exact grounded.plain entry held last inside
    · cases listed

/-- Names in a path as a stream file has it. -/
def PathNames (path : List String) : Prop := ∀ name ∈ path, name ≠ "" ∧ SlashFree name

theorem stream_names_path (path : String) : PathNames (streamNames path) := by
  intro name listed
  obtain ⟨part, named⟩ := List.mem_filter.mp listed
  exact ⟨by simpa using named, slash_free_part part⟩

section Alike

variable (alike : FileTree.LooksAlike top one other)
include alike

theorem child_alike (plain : FileTree.PlainPlace names) {name : String}
    (named : FileTree.PlainName name) (free : SlashFree name) :
    (LocalSource.mk other top).child? (top ++ names) name =
      (LocalSource.mk one top).child? (top ++ names) name := by
  have exact := alike (names ++ [name]) (plain.child named)
  have here := alike names plain
  rw [← List.append_assoc] at exact
  simp only [child?, join_plain_name named free, FileTree.leadsSomewhere, FileTree.find_eq_seen,
    FileTree.listing_eq_seen, exact, here]

theorem descend_alike (grounded : one.Grounded) {path : List String} (spelled : PathNames path)
    (plain : FileTree.PlainPlace names) :
    (LocalSource.mk other top).descend (top ++ names) path =
        (LocalSource.mk one top).descend (top ++ names) path ∧
      ∀ found, (LocalSource.mk one top).descend (top ++ names) path = some found →
        ∃ below, FileTree.PlainPlace below ∧ found = top ++ below := by
  induction path generalizing names with
  | nil =>
      refine ⟨rfl, ?_⟩
      rintro found ⟨rfl⟩
      exact ⟨names, plain, rfl⟩
  | cons name rest induction =>
      obtain ⟨⟨given, free⟩, later⟩ := List.forall_mem_cons.mp spelled
      have directory : other.isDirectory (top ++ names) = one.isDirectory (top ++ names) := by
        rw [FileTree.isDirectory, FileTree.isDirectory, FileTree.find_eq_seen, FileTree.find_eq_seen,
          alike names plain]
      simp only [descend, directory]
      split
      case isTrue refused => exact ⟨rfl, by rintro found ⟨⟩⟩
      case isFalse accepted =>
        simp only [Bool.or_eq_true, decide_eq_true_eq, not_or] at accepted
        have named : FileTree.PlainName name := ⟨given, accepted.1.1, accepted.1.2⟩
        rw [child_alike alike plain named free]
        cases child : (LocalSource.mk one top).child? (top ++ names) name with
        | none => exact ⟨rfl, by rintro found ⟨⟩⟩
        | some next =>
            obtain ⟨last, lastNamed, rfl⟩ := child_plain grounded named free child
            rw [List.append_assoc]
            exact induction later (plain.child lastNamed)

/-- What is found below the root is found through the root, which leads to one place in both trees. -/
theorem within_alike (plain : FileTree.PlainPlace names) {text : String}
    (held : TextWithin ⟨one, top⟩ (top ++ names) text) :
    TextWithin ⟨other, top⟩ (top ++ names) text := by
  obtain ⟨whole, ⟨bytes, reads, decodes⟩, within⟩ := held
  have wholeTop : hasNull top = false := by
    rw [hasNull, List.any_append, Bool.or_eq_false_iff] at whole
    exact whole.1
  obtain ⟨place, listed, sees⟩ := FileTree.read_iff_seen.mp reads
  have seesOther := (alike names plain).symm.trans sees
  have resolves := FileTree.resolve_of_locate [] (FileTree.seen_iff.mp sees).1 whole
  have resolvesOther := FileTree.resolve_of_locate [] (FileTree.seen_iff.mp seesOther).1 whole
  obtain ⟨middle, rooted⟩ : ∃ middle, one.locate top = .ok middle := by
    obtain ⟨links, bound, leads⟩ := FileTree.locate_iff.mp (FileTree.seen_iff.mp sees).1
    obtain ⟨inner, outer, middle, counted, first, _⟩ := leads.of_append
    exact ⟨middle, FileTree.locate_iff.mpr ⟨inner, by omega, first⟩⟩
  have rootedOther : other.locate top = .ok middle := by
    have same := alike [] FileTree.plain_top
    rw [List.append_nil] at same
    rwa [FileTree.located_iff_seen, ← same, ← FileTree.located_iff_seen]
  have topResolves := FileTree.resolve_of_locate [] rooted wholeTop
  have topResolvesOther := FileTree.resolve_of_locate [] rootedOther wholeTop
  obtain ⟨found, root, resolved, rootResolved, inside⟩ := FileTree.is_within_iff.mp within
  cases resolves.symm.trans resolved
  cases topResolves.symm.trans rootResolved
  exact ⟨whole, ⟨bytes, FileTree.read_iff_seen.mpr ⟨place, listed, seesOther⟩, decodes⟩,
    FileTree.is_within_iff.mpr ⟨place, middle, resolvesOther, topResolvesOther, inside⟩⟩

/-- Trees that look alike serve the same stream files. -/
theorem serve_stream_alike (grounded : one.Grounded) {path text : String} :
    (LocalSource.mk one top).serveStream path = .ok text ↔
      (LocalSource.mk other top).serveStream path = .ok text := by
  have walks := descend_alike alike grounded (stream_names_path path) FileTree.plain_top
  rw [List.append_nil] at walks
  obtain ⟨same, below⟩ := walks
  simp only [serve_stream_iff, same]
  constructor
  · rintro ⟨found, descends, held⟩
    obtain ⟨names, plain, rfl⟩ := below found descends
    exact ⟨_, descends, within_alike alike plain held⟩
  · rintro ⟨found, descends, held⟩
    obtain ⟨names, plain, rfl⟩ := below found descends
    exact ⟨_, descends, within_alike alike.symm plain held⟩

end Alike

end LocalSource

end RpgSymbols
