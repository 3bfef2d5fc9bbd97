import RpgSymbols.Proofs.Files.View
import RpgSymbols.Proofs.Text.CaseCutting
import Mathlib.Data.List.Find

/-!
Looking names up below a place that has no links below it. A path leads to the place that its names
spell below the place of the root, and nowhere else. If moreover no two names of one directory differ
in case alone, a name that is asked for in any case finds the one entry whose name it is in upper
case. How the root itself is reached does not matter: there may be links on the way.
-/

namespace RpgSymbols

open Text

namespace FileTree

/-- A grounded tree without links. No name of an entry has a null character. -/
structure Linkless (tree : FileTree) : Prop extends Grounded tree where
  whole : ∀ entry ∈ tree.entries, hasNull entry.1 = false
  unlinked : ∀ entry ∈ tree.entries, ∀ target, entry.2 ≠ .link target

/-- No two entries of one directory have names that are equal in upper case. -/
def CaseApart (tree : FileTree) : Prop :=
  ∀ directory name other, (tree.entry? (directory ++ [name])).isSome = true →
    (tree.entry? (directory ++ [other])).isSome = true → upper name = upper other → name = other

structure LinklessBelow (tree : FileTree) (top : Place) : Prop extends Grounded tree where
  whole : ∀ entry ∈ tree.entries, hasNull entry.1 = false
  unlinked : ∀ entry ∈ tree.entries, top <+: entry.1 → ∀ target, entry.2 ≠ .link target

def CaseApartBelow (tree : FileTree) (top : Place) : Prop :=
  ∀ directory name other, top <+: directory → (tree.entry? (directory ++ [name])).isSome = true →
    (tree.entry? (directory ++ [other])).isSome = true → upper name = upper other → name = other

theorem Linkless.below {tree : FileTree} (linkless : tree.Linkless) (top : Place) :
    tree.LinklessBelow top :=
  ⟨linkless.toGrounded, linkless.whole, fun entry listed _ => linkless.unlinked entry listed⟩

theorem LinklessBelow.deeper {tree : FileTree} {top here : Place} (linkless : tree.LinklessBelow top)
    (below : top <+: here) : tree.LinklessBelow here :=
  ⟨linkless.toGrounded, linkless.whole,
    fun entry listed inner => linkless.unlinked entry listed (below.trans inner)⟩

theorem CaseApart.below {tree : FileTree} (apart : tree.CaseApart) (top : Place) :
    tree.CaseApartBelow top :=
  fun directory name other _ => apart directory name other

theorem CaseApartBelow.deeper {tree : FileTree} {top here : Place} (apart : tree.CaseApartBelow top)
    (below : top <+: here) : tree.CaseApartBelow here :=
  fun directory name other inner => apart directory name other (below.trans inner)

theorem case_apart_of_places {tree : FileTree}
    (apart : ∀ one ∈ tree.entries.map Prod.fst, ∀ other ∈ tree.entries.map Prod.fst,
      one.dropLast = other.dropLast → one.map upper = other.map upper → one = other) :
    tree.CaseApart := by
  intro directory name other first second same
  obtain ⟨entry, found⟩ := Option.isSome_iff_exists.mp first
  obtain ⟨otherEntry, otherFound⟩ := Option.isSome_iff_exists.mp second
  have one := List.mem_map_of_mem (f := Prod.fst) (place_of_entry (by simp) found)
  have two := List.mem_map_of_mem (f := Prod.fst) (place_of_entry (by simp) otherFound)
  have ends := apart _ one _ two (by simp) (by simp [same])
  exact List.singleton_inj.mp (List.append_cancel_left ends)

def isFileAt (tree : FileTree) (place : Place) : Bool :=
  match tree.entry? place with
  | some (.file _) => true
  | _ => false

/-- The first file in a directory, in the order of names, whose name up to its first dot is the
member's. -/
def firstMember? (tree : FileTree) (directory : Place) (member : String) : Option String :=
  (tree.namesIn directory).find? fun name =>
    tree.isFileAt (directory ++ [name]) && upper (before '.' name) = upper member

theorem first_member_upper (tree : FileTree) (directory : Place) (member : String) :
    tree.firstMember? directory (upper member) = tree.firstMember? directory member := by
  rw [firstMember?, firstMember?, upper_upper]

theorem is_file_at_iff {tree : FileTree} {place : Place} :
    tree.isFileAt place = true ↔ ∃ bytes, tree.entry? place = some (.file bytes) := by
  unfold isFileAt
  cases tree.entry? place with
  | none => simp
  | some entry => cases entry <;> simp

theorem mem_names_in_iff {tree : FileTree} {place : Place} {name : String} :
    name ∈ tree.namesIn place ↔ (tree.entry? (place ++ [name])).isSome = true := by
  have named : place ++ [name] ≠ [] := by simp
  rw [namesIn, List.mem_mergeSort, List.mem_filterMap]
  constructor
  · rintro ⟨⟨whole, entry⟩, listed, last⟩
    dsimp only at last
    split at last
    · rename_i parent
      have parent : whole.dropLast = place := by simpa using parent
      have here : whole = place ++ [name] := by
        rw [← parent]
        exact (List.dropLast_append_getLast? name last).symm
      subst here
      rw [ entry?, if_neg (by simp), Option.isSome_map, List.find?_isSome]
      exact ⟨_, listed, by simp⟩
    · cases last
  · intro stands
    obtain ⟨entry, found⟩ := Option.isSome_iff_exists.mp stands
    exact ⟨(place ++ [name], entry), place_of_entry named found, by simp⟩

section Grounded

variable {tree : FileTree} (grounded : tree.Grounded)
include grounded

/-- Above an entry there are directories. -/
theorem directory_above {place : Place} {name : String} {rest : List String}
    (stands : (tree.entry? (place ++ name :: rest)).isSome = true) :
    tree.isDirectoryAt place = true := by
  have parent : ∀ {above : Place} {last : String},
      (tree.entry? (above ++ [last])).isSome = true → tree.isDirectoryAt above = true := by
    intro above last stands
    obtain ⟨entry, found⟩ := Option.isSome_iff_exists.mp stands
    have held := grounded.held _ (place_of_entry (by simp) found)
    rwa [List.dropLast_concat] at held
  induction rest using List.reverseRecOn with
  | nil => exact parent stands
  | append_singleton rest last induction =>
      rw [← List.cons_append, ← List.append_assoc] at stands
      have directory := parent stands
      rw [isDirectoryAt, beq_iff_eq] at directory
      exact induction (by rw [directory]; rfl)

theorem directory_entry_above {place : Place} {name : String} {rest : List String}
    (stands : (tree.entry? (place ++ name :: rest)).isSome = true) :
    tree.entry? place = some .directory := by
  simpa [isDirectoryAt] using directory_above grounded stands

theorem entry_above {place : Place} {name : String} {rest : List String}
    (stands : (tree.entry? (place ++ name :: rest)).isSome = true) :
    (tree.entry? (place ++ [name])).isSome = true := by
  cases rest with
  | nil => exact stands
  | cons next rest =>
      rw [List.append_cons] at stands
      exact Option.isSome_of_eq_some (directory_entry_above grounded stands)

theorem plain_of_entry {place names : Place}
    (stands : (tree.entry? (place ++ names)).isSome = true) : PlainPlace names := by
  by_cases top : place ++ names = []
  · rw [(List.append_eq_nil_iff.mp top).2]
    exact plain_top
  · obtain ⟨entry, found⟩ := Option.isSome_iff_exists.mp stands
    have plain := grounded.plain _ (place_of_entry top found)
    exact fun name listed => plain name (List.mem_append_right _ listed)

/-- The names of an entry have no slash and are not empty. -/
theorem path_names_of_entry {place names : Place}
    (stands : (tree.entry? (place ++ names)).isSome = true) :
    ∀ name ∈ names, name ≠ "" ∧ SlashFree name := by
  intro name listed
  have plain := plain_of_entry grounded stands name listed
  have top : place ++ names ≠ [] :=
    List.append_ne_nil_of_right_ne_nil _ (List.ne_nil_of_mem listed)
  obtain ⟨entry, found⟩ := Option.isSome_iff_exists.mp stands
  have free := grounded.slashFree _ (place_of_entry top found)
  exact ⟨plain.named, free name (List.mem_append_right _ listed)⟩

end Grounded

section Whole

variable {tree : FileTree} (whole : ∀ entry ∈ tree.entries, hasNull entry.1 = false) {here : Place}
  {names : List String}
include whole

theorem whole_of_entry {place : Place} (stands : (tree.entry? place).isSome = true) :
    hasNull place = false := by
  by_cases top : place = []
  · rw [top]
    rfl
  · obtain ⟨entry, found⟩ := Option.isSome_iff_exists.mp stands
    exact whole _ (place_of_entry top found)

theorem whole_of_leads {links : Nat} {place : Place} (leads : tree.Leads links here names place) :
    hasNull names = false := by
  have cons : ∀ {name : String} {rest : List String}, hasNull [name] = false →
      hasNull rest = false → hasNull (name :: rest) = false := by
    intro name rest first others
    simpa [hasNull] using ⟨by simpa [hasNull] using first, by simpa [hasNull] using others⟩
  have last : ∀ {place : Place} {name : String} {entry : Entry},
      tree.entry? (place ++ [name]) = some entry → hasNull [name] = false := by
    intro place name entry found
    have whole := whole_of_entry whole (Option.isSome_of_eq_some found)
    rw [hasNull, List.any_append, Bool.or_eq_false_iff] at whole
    exact whole.2
  induction leads with
  | arrived here => rfl
  | stay _ stays _ induction =>
      refine cons ?_ induction
      rcases stays with rfl | rfl
      · decide
      · decide
  | climb _ _ induction => exact cons (by decide) induction
  | enter _ _ found _ _ induction => exact cons (last found) induction
  | follow _ _ found _ _ _ induction => exact cons (last found) induction

theorem whole_of_located (locates : tree.locate names = .ok here) : hasNull names = false := by
  obtain ⟨links, _, leads⟩ := locate_iff.mp locates
  exact whole_of_leads whole leads

end Whole

section Linkless

variable {tree : FileTree} {here : Place} (linkless : tree.LinklessBelow here) {names : List String}
  (locates : tree.locate names = .ok here)
include linkless locates

/-- What names lead to below a place is what stands there. -/
theorem locate_below {below place : Place} (plain : PlainPlace below) :
    tree.locate (names ++ below) = .ok place ↔
      place = here ++ below ∧ (tree.entry? (here ++ below)).isSome = true := by
  constructor
  · intro arrives
    obtain ⟨_, _, leads⟩ := locate_iff.mp locates
    obtain ⟨entry, found⟩ := entry_of_located arrives
    obtain ⟨_, _, whole⟩ := locate_iff.mp arrives
    obtain ⟨_, _, middle, _, first, second⟩ := whole.of_append
    obtain ⟨_, rfl⟩ := first.unique leads
    obtain ⟨_, rfl⟩ := second.straight linkless.unlinked plain List.prefix_rfl
    exact ⟨rfl, by rw [found]; rfl⟩
  · rintro ⟨rfl, stands⟩
    by_cases top : here ++ below = []
    · obtain ⟨rfl, rfl⟩ := List.append_eq_nil_iff.mp top
      simpa using locates
    · obtain ⟨entry, found⟩ := Option.isSome_iff_exists.mp stands
      have listed := place_of_entry top found
      have straight := linkless.unlinked _ listed (List.prefix_append _ _)
      exact locate_listed linkless.toGrounded locates listed straight

theorem find_below {below : Place} (plain : PlainPlace below) :
    tree.find? (names ++ below) = tree.entry? (here ++ below) := by
  have whole := whole_of_located linkless.whole locates
  rw [find?]
  cases found : tree.entry? (here ++ below) with
  | some entry =>
      have stands : (tree.entry? (here ++ below)).isSome = true := by rw [found]; rfl
      have arrives := (locate_below linkless locates plain).mpr ⟨rfl, stands⟩
      have wholeBelow := whole_of_entry linkless.whole stands
      rw [hasNull, List.any_append, Bool.or_eq_false_iff] at wholeBelow
      have null : hasNull (names ++ below) = false := by
        rw [hasNull, List.any_append, Bool.or_eq_false_iff]
        exact ⟨whole, wholeBelow.2⟩
      rw [null, arrives]
      exact found
  | none =>
      split
      · rfl
      · cases arrives : tree.locate (names ++ below) with
        | error reason => rfl
        | ok place =>
            obtain ⟨rfl, stands⟩ := (locate_below linkless locates plain).mp arrives
            rw [found] at stands
            cases stands

end Linkless

theorem plain_upper_iff {name : String} : PlainName (upper name) ↔ PlainName name := by
  have dot : ('.').toNat ∈ cuttingCodes := by decide
  have one : upper name = "." ↔ name = "." := upper_eq_only_cuts dot (by simp) name
  have two : upper name = ".." ↔ name = ".." := upper_eq_only_cuts dot (by simp) name
  constructor
  · intro plain
    exact ⟨mt upper_eq_empty.mpr plain.named, mt one.mpr plain.moves, mt two.mpr plain.descends⟩
  · intro plain
    exact ⟨mt upper_eq_empty.mp plain.named, mt one.mp plain.moves, mt two.mp plain.descends⟩

end FileTree

namespace LocalSource

section Lookup

variable {tree : FileTree} {here : Place} (linkless : tree.LinklessBelow here)
  (apart : tree.CaseApartBelow here) {root names : List String}
include linkless

/-- What stands below the root is within it. -/
theorem within_below (rooted : tree.locate root = .ok here) {below : Place}
    (stands : (tree.entry? (here ++ below)).isSome = true) :
    tree.isWithin root (root ++ below) = .ok true := by
  have plain := FileTree.plain_of_entry linkless.toGrounded stands
  have arrives := (FileTree.locate_below linkless rooted plain).mpr ⟨rfl, stands⟩
  have whole := FileTree.whole_of_located linkless.whole rooted
  have wholeBelow := FileTree.whole_of_located linkless.whole arrives
  exact FileTree.is_within_iff.mpr ⟨here ++ below, here,
    FileTree.resolve_of_locate [] arrives wholeBelow,
    FileTree.resolve_of_locate [] rooted whole, List.prefix_append _ _⟩

variable (locates : tree.locate names = .ok here)
include apart locates

theorem child_iff {name : String} (plain : FileTree.PlainName name) (free : SlashFree name)
    {found : List String} :
    (LocalSource.mk tree root).child? names name = some found ↔
      ∃ other, (tree.entry? (here ++ [other])).isSome = true ∧ upper other = upper name ∧
        found = names ++ [other] := by
  have single : FileTree.PlainPlace [name] := FileTree.plain_top.child plain
  have exact : tree.leadsSomewhere (names ++ [name]) =
      (tree.entry? (here ++ [name])).isSome := by
    rw [FileTree.leadsSomewhere, FileTree.find_below linkless locates single]
  have listing : (LocalSource.mk tree root).listing names = tree.namesIn here := by
    rw [LocalSource.listing, locates]
  simp only [child?, join_plain_name plain free, exact, listing]
  constructor
  · intro child
    split at child
    · rename_i stands
      cases child
      exact ⟨name, stands, rfl, rfl⟩
    · obtain ⟨other, first, rfl⟩ := Option.map_eq_some_iff.mp child
      have listed := FileTree.mem_names_in_iff.mp (List.mem_of_find?_eq_some first)
      exact ⟨other, listed, by simpa using List.find?_some first, rfl⟩
  · rintro ⟨other, stands, same, rfl⟩
    split
    · rename_i written
      rw [apart here name other List.prefix_rfl written stands same.symm]
    · have some : ((tree.namesIn here).find? fun other => upper other = upper name).isSome := by
        rw [List.find?_isSome]
        exact ⟨other, FileTree.mem_names_in_iff.mpr stands, by simpa using same⟩
      obtain ⟨first, found⟩ := Option.isSome_iff_exists.mp some
      have listed := FileTree.mem_names_in_iff.mp (List.mem_of_find?_eq_some found)
      have alike : upper first = upper name := by simpa using List.find?_some found
      rw [found, apart here first other List.prefix_rfl listed stands (alike.trans same.symm)]
      rfl

/-- A path in any case leads from a directory to the entry below it that it names. -/
theorem descend_iff {path : List String} (spelled : PathNames path) {found : List String} :
    (LocalSource.mk tree root).descend names path = some found ↔
      ∃ below, below.map upper = path.map upper ∧ (tree.entry? (here ++ below)).isSome = true ∧
        found = names ++ below := by
  induction path generalizing names here with
  | nil =>
      obtain ⟨entry, stands⟩ := FileTree.entry_of_located locates
      rw [descend, Option.some.injEq]
      constructor
      · rintro rfl
        exact ⟨[], rfl, by simp [stands], (List.append_nil names).symm⟩
      · rintro ⟨below, alike, _, rfl⟩
        rw [List.map_eq_nil_iff.mp alike, List.append_nil]
  | cons name rest induction =>
      obtain ⟨⟨given, free⟩, later⟩ := List.forall_mem_cons.mp spelled
      have directory : tree.isDirectory names = tree.isDirectoryAt here := by
        have found := FileTree.find_below linkless locates FileTree.plain_top
        rw [List.append_nil, List.append_nil] at found
        rw [FileTree.isDirectory, found, FileTree.isDirectoryAt]
      have onward : ∀ other, (tree.entry? (here ++ [other])).isSome = true →
          tree.locate (names ++ [other]) = .ok (here ++ [other]) := by
        intro other stands
        have plain := FileTree.plain_of_entry linkless.toGrounded stands
        exact (FileTree.locate_below linkless locates plain).mpr ⟨rfl, stands⟩
      have deeper : ∀ other, tree.LinklessBelow (here ++ [other]) ∧
          tree.CaseApartBelow (here ++ [other]) := fun other =>
        ⟨linkless.deeper (List.prefix_append _ _), apart.deeper (List.prefix_append _ _)⟩
      simp only [descend, directory]
      constructor
      · intro descends
        split at descends
        · cases descends
        · rename_i accepted
          simp only [Bool.or_eq_true, decide_eq_true_eq, not_or, Bool.not_eq_true',
            Bool.not_eq_false] at accepted
          have plain : FileTree.PlainName name := ⟨given, accepted.1.1, accepted.1.2⟩
          cases child : (LocalSource.mk tree root).child? names name with
          | none =>
              rw [child] at descends
              cases descends
          | some next =>
              rw [child] at descends
              obtain ⟨other, stands, same, rfl⟩ :=
                (child_iff linkless apart locates plain free).mp child
              obtain ⟨below, alike, stands, rfl⟩ := (induction (deeper other).1 (deeper other).2
                (onward other stands) later).mp descends
              refine ⟨other :: below, ?_, ?_, ?_⟩
              · rw [List.map_cons, List.map_cons, same, alike]
              · rwa [List.append_cons]
              · exact (List.append_cons names other below).symm
      · rintro ⟨below, alike, stands, rfl⟩
        obtain ⟨other, rest, rfl, same, others⟩ := List.map_eq_cons_iff.mp alike
        have inside := FileTree.directory_above linkless.toGrounded stands
        have first := FileTree.entry_above linkless.toGrounded stands
        have otherPlain := FileTree.plain_of_entry linkless.toGrounded first other
          (List.mem_singleton_self other)
        have plain : FileTree.PlainName name := by
          rw [← FileTree.plain_upper_iff, ← same]
          exact FileTree.plain_upper_iff.mpr otherPlain
        have child : (LocalSource.mk tree root).child? names name = some (names ++ [other]) :=
          (child_iff linkless apart locates plain free).mpr ⟨other, first, same, rfl⟩
        rw [if_neg (by simp [plain.moves, plain.descends, inside]), child]
        rw [List.append_cons] at stands
        exact (induction (deeper other).1 (deeper other).2 (onward other first) later).mpr
          ⟨rest, others, stands, List.append_cons names other rest⟩

end Lookup

/-- Two places that are the same in upper case are the same. -/
theorem place_unique {tree : FileTree} (linkless : tree.Linkless) (apart : tree.CaseApart)
    {one other : Place} (alike : one.map upper = other.map upper)
    (stands : (tree.entry? one).isSome = true) (otherStands : (tree.entry? other).isSome = true) :
    one = other := by
  have spelled : PathNames one :=
    @FileTree.path_names_of_entry tree linkless.toGrounded [] one stands
  have rooted : tree.locate [] = .ok [] := rfl
  have descends : ∀ {place : Place}, place.map upper = one.map upper →
      (tree.entry? place).isSome = true →
      (LocalSource.mk tree []).descend [] one = some place :=
    fun same found => (descend_iff (linkless.below []) (apart.below []) rooted spelled).mpr
      ⟨_, same, found, rfl⟩
  exact Option.some.inj ((descends rfl stands).symm.trans (descends alike.symm otherStands))

/-- The member is served from the file at the path, which has the text. -/
structure ServesFrom (source : LocalSource) (address : MemberAddress) (path : List String)
    (text : String) : Prop where
  located : source.locateMember ((address.group.filter fun name => !name.isEmpty).toList ++
    [address.library, address.file]) address.member = .ok (some path)
  reads : source.readAt path = .ok text

theorem serve_member_iff {source : LocalSource} {address : MemberAddress} {text : String} :
    source.serveMember address = .ok text ↔ ∃ path, source.ServesFrom address path text := by
  unfold serveMember
  dsimp only
  constructor
  · intro serves
    split at serves
    · cases serves
    · rename_i path located
      exact ⟨path, located, serves⟩
    · cases serves
  · rintro ⟨path, located, reads⟩
    rw [located]
    exact reads

section Served

variable {tree : FileTree} {top : Place} (linkless : tree.LinklessBelow top)
  (apart : tree.CaseApartBelow top) {root : List String} (rooted : tree.locate root = .ok top)
include linkless rooted

theorem read_below {below : Place} (plain : FileTree.PlainPlace below) {text : String} :
    (LocalSource.mk tree root).readAt (root ++ below) = .ok text ↔
      ∃ bytes, tree.entry? (top ++ below) = some (.file bytes) ∧ readText? bytes = some text := by
  simp only [read_at_iff, FileTree.read_iff, FileTree.locate_below linkless rooted plain]
  constructor
  · rintro ⟨bytes, ⟨place, ⟨rfl, _⟩, found⟩, decodes⟩
    exact ⟨bytes, found, decodes⟩
  · rintro ⟨bytes, found, decodes⟩
    exact ⟨bytes, ⟨_, ⟨rfl, by rw [found]; rfl⟩, found⟩, decodes⟩

theorem member_file_eq {names : Place} (stands : (tree.entry? (top ++ names)).isSome = true)
    (member : String) :
    (LocalSource.mk tree root).memberFile? (root ++ names) member =
      (tree.firstMember? (top ++ names) member).map fun name => root ++ names ++ [name] := by
  have plain := FileTree.plain_of_entry linkless.toGrounded stands
  have located := (FileTree.locate_below linkless rooted plain).mpr ⟨rfl, stands⟩
  have file : ∀ name ∈ tree.namesIn (top ++ names),
      tree.isFile (root ++ names ++ [name]) = tree.isFileAt (top ++ names ++ [name]) := by
    intro name listed
    have single := FileTree.plain_of_entry linkless.toGrounded
      (FileTree.mem_names_in_iff.mp listed)
    rw [FileTree.isFile, FileTree.find_below (linkless.deeper (List.prefix_append _ _)) located single]
    rfl
  have same : (tree.namesIn (top ++ names)).find? (fun name =>
      tree.isFile (root ++ names ++ [name]) && upper (before '.' name) = upper member) =
      tree.firstMember? (top ++ names) member := by
    apply List.find?_congr
    intro name listed
    rw [file name listed]
  simp only [memberFile?, LocalSource.listing, located, same]

include apart

/-- Stream files are served as the file that the path names in any case. -/
theorem serve_stream_below_iff {path text : String} :
    (LocalSource.mk tree root).serveStream path = .ok text ↔
      ∃ below bytes, below.map upper = (streamNames path).map upper ∧
        tree.entry? (top ++ below) = some (.file bytes) ∧ readText? bytes = some text := by
  rw [serve_stream_iff]
  simp only [descend_iff linkless apart rooted (stream_names_path path)]
  constructor
  · rintro ⟨_, ⟨below, alike, stands, rfl⟩, whole, ⟨bytes, reads, decodes⟩, within⟩
    have plain := FileTree.plain_of_entry linkless.toGrounded stands
    obtain ⟨place, located, found⟩ := FileTree.read_iff.mp reads
    obtain ⟨rfl, _⟩ := (FileTree.locate_below linkless rooted plain).mp located
    exact ⟨below, bytes, alike, found, decodes⟩
  · rintro ⟨below, bytes, alike, found, decodes⟩
    have stands : (tree.entry? (top ++ below)).isSome = true := by rw [found]; rfl
    have plain := FileTree.plain_of_entry linkless.toGrounded stands
    have located := (FileTree.locate_below linkless rooted plain).mpr ⟨rfl, stands⟩
    exact ⟨root ++ below, ⟨below, alike, stands, rfl⟩,
      FileTree.whole_of_located linkless.whole located,
      ⟨bytes, FileTree.read_iff.mpr ⟨_, located, found⟩, decodes⟩,
      within_below linkless rooted stands⟩

/-- Members are served from the first file of the directory that their address names in any
case. -/
theorem serves_from_iff {address : MemberAddress} {path : List String} {text : String}
    (spelled : PathNames ((address.group.filter fun name => !name.isEmpty).toList ++
      [address.library, address.file])) :
    (LocalSource.mk tree root).ServesFrom address path text ↔
      ∃ directory name bytes, directory.map upper =
          ((address.group.filter fun name => !name.isEmpty).toList ++
            [address.library, address.file]).map upper ∧
        tree.firstMember? (top ++ directory) address.member = some name ∧
        tree.entry? (top ++ directory ++ [name]) = some (.file bytes) ∧
        readText? bytes = some text ∧ path = root ++ directory ++ [name] := by
  constructor
  · rintro ⟨located, reads⟩
    obtain ⟨_, found, listed, _⟩ := locate_member_iff.mp located
    obtain ⟨directory, alike, stands, rfl⟩ :=
      (descend_iff linkless apart rooted spelled).mp (locate_some_iff.mp found).1
    rw [member_file_eq linkless rooted stands] at listed
    obtain ⟨name, first, rfl⟩ := Option.map_eq_some_iff.mp listed
    have entry := FileTree.mem_names_in_iff.mp (List.mem_of_find?_eq_some first)
    rw [List.append_assoc] at entry reads
    have plain := FileTree.plain_of_entry linkless.toGrounded entry
    obtain ⟨bytes, held, decodes⟩ := (read_below linkless rooted plain).mp reads
    rw [← List.append_assoc] at held
    exact ⟨directory, name, bytes, alike, first, held, decodes, rfl⟩
  · rintro ⟨directory, name, bytes, alike, first, held, decodes, rfl⟩
    have stands : (tree.entry? (top ++ (directory ++ [name]))).isSome = true := by
      rw [← List.append_assoc, held]
      rfl
    have inside : (tree.entry? (top ++ directory)).isSome = true := by
      rw [← List.append_assoc] at stands
      exact Option.isSome_of_eq_some (FileTree.directory_entry_above linkless.toGrounded stands)
    have plain := FileTree.plain_of_entry linkless.toGrounded stands
    have descends : (LocalSource.mk tree root).descend root _ = some (root ++ directory) :=
      (descend_iff linkless apart rooted spelled).mpr ⟨directory, alike, inside, rfl⟩
    have located := locate_some_iff.mpr ⟨descends, within_below linkless rooted inside⟩
    have listed := member_file_eq linkless rooted inside address.member
    rw [first] at listed
    constructor
    · refine locate_member_iff.mpr ⟨root ++ directory, located, listed, ?_⟩
      rw [List.append_assoc]
      exact within_below linkless rooted stands
    · rw [List.append_assoc]
      rw [List.append_assoc] at held
      exact (read_below linkless rooted plain).mpr ⟨bytes, held, decodes⟩

end Served

end LocalSource

end RpgSymbols
