import RpgSymbols.Proofs.Files.Lookup

/-!
Paths in a tree without links. Such a tree has no say in what a path is resolved to: names that stay
are dropped and steps up are taken, and that is all. A walk there never comes to a link, so it never
fails for entering too many.
-/

namespace RpgSymbols

open Text SlashPath FileTree

section Pushing

variable {done : List String} {name : String}

theorem push_stays (stays : name = "" ∨ name = ".") : pushPart true done name = done :=
  if_pos (by simpa using stays)

theorem push_climbs (plain : PlainPlace done) : pushPart true done ".." = done.tail := by
  cases done with
  | nil => rfl
  | cons last rest =>
      have descends : last ≠ ".." := (plain last List.mem_cons_self).descends
      simp [pushPart, descends]

theorem push_enters (plain : PlainName name) : pushPart true done name = name :: done := by
  simp [pushPart, plain.named, plain.moves, plain.descends]

theorem push_among (plain : PlainPlace done) : ∀ part ∈ pushPart true done name,
    part ∈ done ∨ part = name ∧ PlainName name := by
  intro part listed
  rcases name_cases name with stays | rfl | enters
  · rw [push_stays stays] at listed
    exact .inl listed
  · rw [push_climbs plain] at listed
    exact .inl (List.mem_of_mem_tail listed)
  · rw [push_enters enters] at listed
    exact (List.mem_cons.mp listed).symm.imp_right (⟨·, enters⟩)

theorem push_plain (plain : PlainPlace done) : PlainPlace (pushPart true done name) := by
  intro part listed
  rcases push_among plain part listed with before | ⟨rfl, named⟩
  · exact plain part before
  · exact named

end Pushing

theorem pushed_among {done : List String} (plain : PlainPlace done) (names : List String) :
    ∀ part ∈ names.foldl (pushPart true) done, part ∈ done ∨ part ∈ names ∧ PlainName part := by
  induction names generalizing done with
  | nil => exact fun part listed => .inl listed
  | cons name rest induction =>
      intro part listed
      rcases induction (push_plain plain) part listed with pushed | ⟨later, named⟩
      · rcases push_among plain part pushed with before | ⟨rfl, named⟩
        · exact .inl before
        · exact .inr ⟨List.mem_cons_self, named⟩
      · exact .inr ⟨List.mem_cons_of_mem _ later, named⟩

/-- The names of a normal form are plain names of the path. -/
theorem normal_parts_among (names : List String) :
    ∀ part ∈ normalParts true names, part ∈ names ∧ PlainName part := by
  intro part listed
  rcases pushed_among plain_top names part (List.mem_reverse.mp listed) with before | named
  · cases before
  · exact named

namespace FileTree

section Unlinked

variable {tree : FileTree} (unlinked : ∀ entry ∈ tree.entries, ∀ target, entry.2 ≠ .link target)
include unlinked

theorem no_link (place : Place) (target : String) : tree.entry? place ≠ some (.link target) := by
  intro found
  by_cases top : place = []
  · rw [top] at found
    cases found
  · exact unlinked _ (place_of_entry top found) target rfl

theorem unroll_with_unlinked (current : Place)
    (enter : KnownLinks → Trail → Trail → String → KnownLinks × Unrolled) (known : KnownLinks)
    {done : List String} (plain : PlainPlace done) (names : List String) :
    tree.unrollWith current enter known ⟨true, done.reverse⟩ names =
      (known, .complete ⟨true, (names.foldl (pushPart true) done).reverse⟩) := by
  induction names generalizing done with
  | nil => rfl
  | cons name rest induction =>
      have kept : PlainPlace (pushPart true done name) := push_plain plain
      rw [List.foldl_cons, ← induction kept, unrollWith]
      rcases name_cases name with stays | rfl | enters
      · rw [if_pos (by simpa using stays), push_stays stays]
      · have up : Trail.up ⟨true, done.reverse⟩ = ⟨true, done.tail.reverse⟩ := by
          rw [Trail.up, Bool.true_or, if_pos rfl, List.dropLast_reverse]
        rw [if_neg (by decide), if_pos rfl, push_climbs plain, up]
      · have down : Trail.down ⟨true, done.reverse⟩ name = ⟨true, (name :: done).reverse⟩ := by
          rw [Trail.down, List.reverse_cons]
        rw [if_neg (moves_of_plain enters), if_neg enters.descends, push_enters enters, down]
        dsimp only
        split
        · rename_i target found
          exact absurd found (no_link unlinked _ target)
        · rfl

theorem advance_unlinked (here : Place) (names : List String) :
    (∃ landing, tree.advance here names = .landed landing) ∨
      ∃ error, tree.advance here names = .failed error ∧ error ≠ .tooManyLinks := by
  fun_induction tree.advance here names with
  | case1 here => exact .inl ⟨_, rfl⟩
  | case2 here name rest blocked => exact .inr ⟨_, rfl, by simp⟩
  | case3 here name rest inside stays induction => exact induction
  | case4 here rest inside moves induction => exact induction
  | case5 here name rest inside moves climbs next free last => exact .inl ⟨_, rfl⟩
  | case6 here name rest inside moves climbs next free more => exact .inr ⟨_, rfl, by simp⟩
  | case7 here name rest inside moves climbs next target linked =>
      exact absurd linked (no_link unlinked _ target)
  | case8 here name rest inside moves climbs next entry plain found induction => exact induction

theorem locate_few_links (names : List String) : tree.locate names ≠ .error .tooManyLinks := by
  rw [locate, walk]
  rcases advance_unlinked unlinked [] names with ⟨landing, lands⟩ | ⟨error, fails, few⟩
  · rw [lands]
    cases landing <;> simp
  · rw [fails]
    simpa using few

theorem unrolled_unlinked (names : List String) :
    tree.unrolled [] ⟨true, names⟩ = .complete ⟨true, normalParts true names⟩ := by
  have complete : ∀ depth, (tree.unroll [] [] depth [] ⟨true, []⟩ names).2 =
      .complete ⟨true, normalParts true names⟩ := by
    intro depth
    have unrolled := fun enter => unroll_with_unlinked unlinked [] enter [] plain_top names
    rw [List.reverse_nil] at unrolled
    cases depth with
    | zero => rw [unroll, unrolled, normalParts]
    | succ depth => rw [unroll, unrolled, normalParts]
  simp only [unrolled, complete]

/-- Without links every name is looked up, so any null character is met. -/
theorem meets_null_unlinked (names : List String) :
    tree.meetsNull [] ⟨true, names⟩ = hasNull names := by
  rw [meetsNull, unrolled_unlinked unlinked, Bool.and_true]

/-- A path is resolved to its normal form. -/
theorem resolve_unlinked (names : List String) :
    tree.resolve names =
      if hasNull names then .error .embeddedNull else .ok (normalParts true names) := by
  have plain : PlainPlace (normalParts true names) :=
    fun part listed => (normal_parts_among names part listed).2
  have place : tree.unrolledPlace [] ⟨true, names⟩ = normalParts true names := by
    rw [unrolledPlace, unrolled_unlinked unlinked]
    exact normal_parts_plain plain
  rw [resolve, resolveFrom, meets_null_unlinked unlinked, place]
  dsimp only
  split
  · rfl
  · split
    · rename_i loops
      exact absurd loops (locate_few_links unlinked _)
    · rfl

end Unlinked

end FileTree

end RpgSymbols
