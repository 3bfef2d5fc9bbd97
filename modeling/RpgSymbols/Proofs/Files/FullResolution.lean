import RpgSymbols.Files.Resolve
import RpgSymbols.Proofs.Files.Settling
import Mathlib.Data.List.Perm.Subperm

/-!
Full resolution finds where a path settles; so it agrees with walking, and a path that leads somewhere
is resolved to the place it leads to. The links that are being resolved never come up again on a way
that settles, since what is entered inside one of them has fewer links before it; and so they are all
different links of the tree, and their number stays below the depth that is allowed. A resolution that
is complete has settled, so a null character in a path is met exactly where the names before it settle, or
where it is left in the end.
-/

namespace RpgSymbols

open Text SlashPath

theorem normal_parts_plain {names : List String} (plain : FileTree.PlainPlace names) :
    normalParts true names = names := by
  have pushed : ∀ done, names.foldl (pushPart true) done = names.reverse ++ done := by
    induction names with
    | nil => exact fun _ => rfl
    | cons name rest induction =>
        intro done
        have first := plain name List.mem_cons_self
        have push : pushPart true done name = name :: done := by
          simp [pushPart, first.named, first.moves, first.descends]
        have others := induction fun other listed => plain other (List.mem_cons_of_mem _ listed)
        rw [List.foldl_cons, push, others, List.reverse_cons, List.append_assoc]
        rfl
  rw [normalParts, pushed, List.append_nil, List.reverse_reverse]

theorem trail_injective {directory other : Place} {name last : String}
    (same : (⟨true, directory ++ [name]⟩ : Trail) = ⟨true, other ++ [last]⟩) :
    directory = other ∧ name = last := by
  obtain ⟨above, ends⟩ := List.append_inj' (Trail.mk.inj same).2 rfl
  exact ⟨above, List.singleton_inj.mp ends⟩

namespace FileTree

variable {tree : FileTree}

/-! One name resolved from a place. -/

section Steps

variable (current : Place) {enter : KnownLinks → Trail → Trail → String → KnownLinks × Unrolled}
  {known : KnownLinks} {here : Place} {name : String} {rest : List String}

theorem unroll_with_stays (stays : name = "" ∨ name = ".") :
    tree.unrollWith current enter known ⟨true, here⟩ (name :: rest) =
      tree.unrollWith current enter known ⟨true, here⟩ rest := by
  rw [unrollWith, if_pos (by simpa using stays)]

theorem unroll_with_climbs : tree.unrollWith current enter known ⟨true, here⟩ (".." :: rest) =
    tree.unrollWith current enter known ⟨true, here.dropLast⟩ rest := by
  rw [unrollWith, if_neg (by decide), if_pos rfl]
  rfl

variable (plain : PlainPlace here) (named : PlainName name)
include plain named

theorem unroll_with_passes (unlinked : ∀ target, tree.entry? (here ++ [name]) ≠ some (.link target)) :
    tree.unrollWith current enter known ⟨true, here⟩ (name :: rest) =
      tree.unrollWith current enter known ⟨true, here ++ [name]⟩ rest := by
  have next : (Trail.down ⟨true, here⟩ name).place current = here ++ [name] :=
    normal_parts_plain (plain.child named)
  rw [unrollWith, if_neg (moves_of_plain named), if_neg named.descends]
  dsimp only
  rw [next]
  split
  · rename_i target found
    exact absurd found (unlinked target)
  · rfl

theorem unroll_with_follows {target : String}
    (found : tree.entry? (here ++ [name]) = some (.link target)) :
    tree.unrollWith current enter known ⟨true, here⟩ (name :: rest) =
      match known.find? fun link => link.1 == ⟨true, here ++ [name]⟩ with
      | some (_, trail) => tree.unrollWith current enter known trail rest
      | none =>
          match enter known ⟨true, here ++ [name]⟩ ⟨true, here⟩ target with
          | (later, .complete trail) =>
              tree.unrollWith current enter ((⟨true, here ++ [name]⟩, trail) :: later) trail rest
          | (later, .looping trail) => (later, .looping (trail.rejoin rest)) := by
  have next : (Trail.down ⟨true, here⟩ name).place current = here ++ [name] :=
    normal_parts_plain (plain.child named)
  rw [unrollWith, if_neg (moves_of_plain named), if_neg named.descends]
  dsimp only
  rw [next, found]
  rfl

end Steps

/-- A link stands in a directory, and all names of its place stand for entries. -/
structure LinkAt (tree : FileTree) (directory : Place) (name target : String) : Prop where
  plain : PlainPlace directory
  named : PlainName name
  found : tree.entry? (directory ++ [name]) = some (.link target)

/-- Every link that is known settles where it is known to. -/
def Sound (tree : FileTree) (known : KnownLinks) : Prop :=
  ∀ link ∈ known, ∃ directory name target links place,
    link = (⟨true, directory ++ [name]⟩, ⟨true, place⟩) ∧
      tree.entry? (directory ++ [name]) = some (.link target) ∧
      tree.Settles links (linkStart directory target) (split '/' target) place

theorem sound_nil (tree : FileTree) : tree.Sound [] := by
  intro link listed
  cases listed

theorem sound_cons {known : KnownLinks} (sound : tree.Sound known) {directory place : Place}
    {name target : String} {links : Nat}
    (found : tree.entry? (directory ++ [name]) = some (.link target))
    (settles : tree.Settles links (linkStart directory target) (split '/' target) place) :
    tree.Sound ((⟨true, directory ++ [name]⟩, ⟨true, place⟩) :: known) := by
  intro link listed
  rcases List.mem_cons.mp listed with rfl | before
  · exact ⟨directory, name, target, links, place, rfl, found, settles⟩
  · exact sound link before

/-- What is known of a link is where it settles. -/
theorem settles_of_known {known : KnownLinks} (sound : tree.Sound known) {directory : Place}
    {name target : String} {link : Trail × Trail}
    (found : tree.entry? (directory ++ [name]) = some (.link target))
    (knows : known.find? (fun link => link.1 == ⟨true, directory ++ [name]⟩) = some link) :
    ∃ links place, link.2 = ⟨true, place⟩ ∧
      tree.Settles links (linkStart directory target) (split '/' target) place := by
  obtain ⟨above, last, other, count, there, rfl, linked, settled⟩ :=
    sound link (List.mem_of_find?_eq_some knows)
  have same : (⟨true, above ++ [last]⟩ : Trail) = ⟨true, directory ++ [name]⟩ := by
    simpa using List.find?_some knows
  obtain ⟨rfl, rfl⟩ := trail_injective same
  cases Option.some.inj (linked.symm.trans found)
  exact ⟨count, there, rfl, settled⟩

theorem known_settles {known : KnownLinks} (sound : tree.Sound known) {directory place : Place}
    {name target : String} {links : Nat} {link : Trail × Trail}
    (found : tree.entry? (directory ++ [name]) = some (.link target))
    (settles : tree.Settles links (linkStart directory target) (split '/' target) place)
    (knows : known.find? (fun link => link.1 == ⟨true, directory ++ [name]⟩) = some link) :
    link.2 = ⟨true, place⟩ := by
  obtain ⟨count, there, known, settled⟩ := settles_of_known sound found knows
  rw [known, (settled.unique settles).2]

/-- Resolves what is entered at a link, if fewer links lie behind it than the bound. -/
def EntersBelow (tree : FileTree) (bound : Nat)
    (enter : KnownLinks → Trail → Trail → String → KnownLinks × Unrolled) : Prop :=
  ∀ known directory name target links place, tree.Sound known → links < bound →
    tree.LinkAt directory name target →
    tree.Settles links (linkStart directory target) (split '/' target) place →
    ∃ later, tree.Sound later ∧
      enter known ⟨true, directory ++ [name]⟩ ⟨true, directory⟩ target =
        (later, .complete ⟨true, place⟩)

theorem unroll_with_settles (current : Place) {bound links : Nat}
    {enter : KnownLinks → Trail → Trail → String → KnownLinks × Unrolled}
    (enters : tree.EntersBelow bound enter) {here place : Place} {names : List String}
    (settles : tree.Settles links here names place) (below : links ≤ bound)
    (plain : PlainPlace here) {known : KnownLinks} (sound : tree.Sound known) :
    ∃ later, tree.Sound later ∧
      tree.unrollWith current enter known ⟨true, here⟩ names = (later, .complete ⟨true, place⟩) := by
  induction settles generalizing known with
  | done here => exact ⟨known, sound, rfl⟩
  | stay stays _ induction =>
      rw [unroll_with_stays current stays]
      exact induction below plain sound
  | climb _ induction =>
      rw [unroll_with_climbs current]
      exact induction below plain.parent sound
  | pass named unlinked _ induction =>
      rw [unroll_with_passes current plain named unlinked]
      exact induction below (plain.child named) sound
  | @follow inner outer here middle _ name target _ named found aside _ _ induction =>
      have beside := aside.plain_place (plain.start target)
      rw [unroll_with_follows current plain named found]
      cases knows : known.find? fun link => link.1 == ⟨true, here ++ [name]⟩ with
      | some link =>
          obtain ⟨first, trail⟩ := link
          obtain rfl : trail = ⟨true, middle⟩ := known_settles sound found aside knows
          exact induction (by omega) beside sound
      | none =>
          obtain ⟨entered, fits, resolved⟩ := enters known here name target inner middle sound
            (by omega) ⟨plain, named, found⟩ aside
          rw [resolved]
          exact induction (by omega) beside (sound_cons fits found aside)

/-- The links that are being resolved: they are different, and each has at least the given number of
links behind it. -/
structure Entered (tree : FileTree) (bound : Nat) (entered : List Trail) : Prop where
  distinct : entered.Nodup
  links : ∀ trail ∈ entered, ∃ directory name target,
    trail = ⟨true, directory ++ [name]⟩ ∧
      tree.entry? (directory ++ [name]) = some (.link target) ∧
      ∀ links place, tree.Settles links (linkStart directory target) (split '/' target) place →
        bound ≤ links

theorem entered_nil (tree : FileTree) (bound : Nat) : tree.Entered bound [] := by
  refine ⟨List.nodup_nil, ?_⟩
  intro trail listed
  cases listed

section Entering

variable {bound links : Nat} {entered : List Trail} {directory place : Place} {name target : String}
  (entering : tree.Entered bound entered)
  (found : tree.entry? (directory ++ [name]) = some (.link target))
  (settles : tree.Settles links (linkStart directory target) (split '/' target) place)
  (below : links < bound)
include entering found settles below

theorem not_entered : (⟨true, directory ++ [name]⟩ : Trail) ∉ entered := by
  intro listed
  obtain ⟨above, last, other, same, linked, behind⟩ := entering.links _ listed
  obtain ⟨rfl, rfl⟩ := trail_injective same
  cases Option.some.inj (linked.symm.trans found)
  exact absurd (behind links place settles) (Nat.not_le.mpr below)

theorem entered_cons : tree.Entered links (⟨true, directory ++ [name]⟩ :: entered) := by
  refine ⟨List.nodup_cons.mpr ⟨not_entered entering found settles below, entering.distinct⟩, ?_⟩
  intro trail listed
  rcases List.mem_cons.mp listed with rfl | before
  · refine ⟨directory, name, target, rfl, found, ?_⟩
    intro count other again
    exact Nat.le_of_eq (settles.unique again).1
  · obtain ⟨above, last, other, same, linked, behind⟩ := entering.links trail before
    refine ⟨above, last, other, same, linked, ?_⟩
    intro count there settled
    exact Nat.le_trans (Nat.le_of_lt below) (behind count there settled)

end Entering

/-- Only as many links are entered as the tree has. -/
theorem entered_length {bound : Nat} {entered : List Trail} (entering : tree.Entered bound entered) :
    entered.length ≤ tree.linkCount := by
  rw [linkCount, ← List.length_map fun entry : Place × Entry => (⟨true, entry.1⟩ : Trail)]
  refine (List.subperm_of_subset entering.distinct ?_).length_le
  intro trail listed
  obtain ⟨directory, name, target, rfl, found, _⟩ := entering.links trail listed
  have named : (directory ++ [name]).isEmpty = false := by simp
  rw [ entry?, named, if_neg (by decide), Option.map_eq_some_iff] at found
  obtain ⟨⟨place, entry⟩, finds, rfl⟩ := found
  have same : place = directory ++ [name] := by simpa using List.find?_some finds
  refine List.mem_map.mpr ⟨(place, .link target), List.mem_filter.mpr ⟨?_, rfl⟩, by rw [same]⟩
  exact List.mem_of_find?_eq_some finds

theorem target_start (directory : Place) (target : String) :
    Trail.targetStart ⟨true, directory⟩ target = ⟨true, linkStart directory target⟩ := by
  unfold Trail.targetStart linkStart
  split <;> rfl

/-- Names that settle are resolved completely, to the place where they settle. -/
theorem unroll_settles (current : Place) (depth : Nat) {entered : List Trail} {links : Nat}
    {here place : Place} {names : List String} (settles : tree.Settles links here names place)
    (plain : PlainPlace here) (entering : tree.Entered links entered)
    (enough : tree.linkCount ≤ entered.length + depth) {known : KnownLinks}
    (sound : tree.Sound known) :
    ∃ later, tree.Sound later ∧
      tree.unroll current entered depth known ⟨true, here⟩ names =
        (later, .complete ⟨true, place⟩) := by
  induction depth generalizing entered links here names place known with
  | zero =>
      rw [unroll]
      refine unroll_with_settles current ?_ settles (Nat.le_refl links) plain sound
      intro known directory name target inner middle _ below link aside
      have more := entered_length (entered_cons entering link.found aside below)
      rw [List.length_cons] at more
      omega
  | succ depth induction =>
      rw [unroll]
      refine unroll_with_settles current ?_ settles (Nat.le_refl links) plain sound
      intro known directory name target inner middle fits below link aside
      have new := not_entered entering link.found aside below
      have more := entered_cons entering link.found aside below
      dsimp only
      rw [if_neg (mt List.contains_iff_mem.mp new), target_start]
      exact induction aside (link.plain.start target) more (by rw [List.length_cons]; omega) fits

/-- The depth that is allowed suffices for a path that settles. -/
theorem unrolled_settled (current : Place) {links : Nat} {names : List String} {place : Place}
    (settles : tree.Settles links [] names place) :
    tree.unrolled current ⟨true, names⟩ = .complete ⟨true, place⟩ := by
  have enough : tree.linkCount ≤ ([] : List Trail).length +
      (tree.linkCount + 1) * (current.length + 2) := by
    have once : tree.linkCount + 1 ≤ (tree.linkCount + 1) * (current.length + 2) :=
      Nat.le_mul_of_pos_right _ (by omega)
    rw [List.length_nil]
    omega
  obtain ⟨known, _, unrolled⟩ := unroll_settles current _ settles plain_top (entered_nil tree links)
    enough (sound_nil tree)
  simp only [FileTree.unrolled, unrolled]

theorem unrolled_place_settled (current : Place) {links : Nat} {names : List String} {place : Place}
    (settles : tree.Settles links [] names place) :
    tree.unrolledPlace current ⟨true, names⟩ = place := by
  rw [unrolledPlace, unrolled_settled current settles]
  exact normal_parts_plain (settles.plain_place plain_top)

/-! What is resolved completely settles. -/

/-- What is entered at a link and resolved completely settles. -/
def EntersSoundly (tree : FileTree)
    (enter : KnownLinks → Trail → Trail → String → KnownLinks × Unrolled) : Prop :=
  ∀ known directory name target later trail, tree.Sound known → tree.LinkAt directory name target →
    enter known ⟨true, directory ++ [name]⟩ ⟨true, directory⟩ target = (later, .complete trail) →
    tree.Sound later ∧ ∃ links place, trail = ⟨true, place⟩ ∧
      tree.Settles links (linkStart directory target) (split '/' target) place

theorem settles_of_unroll_with (current : Place)
    {enter : KnownLinks → Trail → Trail → String → KnownLinks × Unrolled}
    (enters : tree.EntersSoundly enter) {here : Place} {names : List String}
    (plain : PlainPlace here) {known later : KnownLinks} (sound : tree.Sound known) {trail : Trail}
    (unrolls : tree.unrollWith current enter known ⟨true, here⟩ names = (later, .complete trail)) :
    tree.Sound later ∧
      ∃ links place, trail = ⟨true, place⟩ ∧ tree.Settles links here names place := by
  induction names generalizing known here with
  | nil =>
      cases unrolls
      exact ⟨sound, 0, here, rfl, .done here⟩
  | cons name rest induction =>
      rcases name_cases name with stays | rfl | named
      · rw [unroll_with_stays current stays] at unrolls
        obtain ⟨fits, links, place, same, settles⟩ := induction plain sound unrolls
        exact ⟨fits, links, place, same, .stay stays settles⟩
      · rw [unroll_with_climbs current] at unrolls
        obtain ⟨fits, links, place, same, settles⟩ := induction plain.parent sound unrolls
        exact ⟨fits, links, place, same, .climb settles⟩
      · by_cases linked : ∃ target, tree.entry? (here ++ [name]) = some (.link target)
        · obtain ⟨target, found⟩ := linked
          rw [unroll_with_follows current plain named found] at unrolls
          split at unrolls
          · rename_i first trail knows
            obtain ⟨inner, middle, rfl, aside⟩ := settles_of_known sound found knows
            have beside := aside.plain_place (plain.start target)
            obtain ⟨fits, outer, place, same, settles⟩ := induction beside sound unrolls
            exact ⟨fits, _, place, same, .follow named found aside settles⟩
          · split at unrolls
            · rename_i entered between resolves
              obtain ⟨extended, inner, middle, rfl, aside⟩ :=
                enters _ _ _ _ _ _ sound ⟨plain, named, found⟩ resolves
              have beside := aside.plain_place (plain.start target)
              obtain ⟨fits, outer, place, same, settles⟩ :=
                induction beside (sound_cons extended found aside) unrolls
              exact ⟨fits, _, place, same, .follow named found aside settles⟩
            · cases unrolls
        · have unlinked := not_exists.mp linked
          rw [unroll_with_passes current plain named unlinked] at unrolls
          obtain ⟨fits, links, place, same, settles⟩ := induction (plain.child named) sound unrolls
          exact ⟨fits, links, place, same, .pass named unlinked settles⟩

theorem settles_of_unroll (current : Place) {entered : List Trail} {depth : Nat} {here : Place}
    {names : List String} (plain : PlainPlace here) {known later : KnownLinks}
    (sound : tree.Sound known) {trail : Trail}
    (unrolls : tree.unroll current entered depth known ⟨true, here⟩ names =
      (later, .complete trail)) :
    tree.Sound later ∧
      ∃ links place, trail = ⟨true, place⟩ ∧ tree.Settles links here names place := by
  induction depth generalizing entered known later here names trail with
  | zero =>
      rw [unroll] at unrolls
      refine settles_of_unroll_with current ?_ plain sound unrolls
      intro known directory name target later trail _ _ loops
      cases loops
  | succ depth induction =>
      rw [unroll] at unrolls
      refine settles_of_unroll_with current ?_ plain sound unrolls
      intro known directory name target later trail fits link resolves
      dsimp only at resolves
      split at resolves
      · cases resolves
      · rw [target_start] at resolves
        exact induction (link.plain.start target) fits resolves

/-- Resolution is complete exactly for the paths that settle. -/
theorem unrolled_complete_iff (current : Place) {names : List String} :
    (∃ trail, tree.unrolled current ⟨true, names⟩ = .complete trail) ↔
      ∃ links place, tree.Settles links [] names place := by
  constructor
  · rintro ⟨trail, completes⟩
    obtain ⟨_, links, place, _, settles⟩ :=
      settles_of_unroll current plain_top (sound_nil tree) (Prod.ext rfl completes)
    exact ⟨links, place, settles⟩
  · rintro ⟨links, place, settles⟩
    exact ⟨_, unrolled_settled current settles⟩

/-! Null characters. -/

theorem meets_null_whole (current : Place) {path : Trail} (whole : hasNull path.names = false) :
    tree.meetsNull current path = false := by
  rw [meetsNull, whole, Bool.false_and]

/-- A null character is met if the names before it settle, or if it is left where resolution
ends. -/
theorem meets_null_iff (current : Place) {names : List String} :
    tree.meetsNull current ⟨true, names⟩ = true ↔ hasNull names = true ∧
      ((∃ links place, tree.Settles links [] (beforeNull names) place) ∨
        hasNull (tree.unrolledPlace current ⟨true, names⟩) = true) := by
  rw [meetsNull, Bool.and_eq_true, ← unrolled_complete_iff current]
  refine and_congr_right fun null => ?_
  dsimp only
  split
  · rename_i trail completes
    exact iff_of_true rfl (.inl ⟨trail, completes⟩)
  · rename_i trail loops
    rw [loops]
    simp

theorem before_null_behind {before : List String} (whole : hasNull before = false)
    (names : List String) : beforeNull (before ++ names) = before ++ beforeNull names := by
  rw [hasNull, List.any_eq_false] at whole
  refine List.takeWhile_append_of_pos fun name listed => ?_
  simpa [hasNull] using whole name listed

theorem before_null_append (names : List String) :
    ∃ rest, names = beforeNull names ++ rest :=
  ⟨_, List.takeWhile_append_dropWhile.symm⟩

/-- In a path that settles every name is looked up. -/
theorem meets_null_settled (current : Place) {links : Nat} {names : List String} {place : Place}
    (settles : tree.Settles links [] names place) :
    tree.meetsNull current ⟨true, names⟩ = hasNull names := by
  obtain ⟨rest, same⟩ := before_null_append names
  obtain ⟨inner, _, middle, before, _⟩ := (same ▸ settles).split
  rw [Bool.eq_iff_iff, meets_null_iff, and_iff_left (.inl ⟨inner, middle, before⟩)]

/-- No link is left in it, so its resolution does not fail. -/
theorem resolve_of_settles (current : Place) {links : Nat} {names : List String} {place : Place}
    (settles : tree.Settles links [] names place) (whole : hasNull names = false) :
    tree.resolveFrom current ⟨true, names⟩ = .ok place := by
  have walkable : tree.locate place ≠ .error .tooManyLinks :=
    locate_straight (settles.plain_place plain_top) (settles.straight (straight_top tree))
  rw [resolveFrom, meets_null_whole current whole, if_neg Bool.false_ne_true]
  dsimp only
  rw [unrolled_place_settled current settles]
  split
  · rename_i fails
    exact absurd fails walkable
  · rfl

theorem meets_null_located (current : Place) {names : List String} {place : Place}
    (locates : tree.locate names = .ok place) :
    tree.meetsNull current ⟨true, names⟩ = hasNull names := by
  obtain ⟨links, _, leads⟩ := locate_iff.mp locates
  exact meets_null_settled current leads.settles

/-- A path that leads somewhere is resolved to where it leads. -/
theorem resolve_of_locate (current : Place) {names : List String} {place : Place}
    (locates : tree.locate names = .ok place) (whole : hasNull names = false) :
    tree.resolveFrom current ⟨true, names⟩ = .ok place := by
  obtain ⟨links, _, leads⟩ := locate_iff.mp locates
  exact resolve_of_settles current leads.settles whole

end FileTree

end RpgSymbols
