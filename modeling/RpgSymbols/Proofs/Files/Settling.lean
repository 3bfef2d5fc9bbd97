import RpgSymbols.Proofs.Files.Leading

/-!
Where names settle. Full resolution follows every link on the way, wherever it leads, and passes a name
that stands for nothing, or for a file, like that of a directory. Names that lead to a place settle
there; names do not settle if a link on their way leads into itself. Where names settle no link is
left, so a walk along the place comes to none.
-/

namespace RpgSymbols.FileTree

open Text

/-- Names settle at a place, and a number of links are resolved on the way. -/
inductive Settles (tree : FileTree) : Nat → Place → List String → Place → Prop
  | done (place : Place) : Settles tree 0 place [] place
  | stay {links : Nat} {here place : Place} {name : String} {rest : List String}
      (stays : name = "" ∨ name = ".") (later : Settles tree links here rest place) :
      Settles tree links here (name :: rest) place
  | climb {links : Nat} {here place : Place} {rest : List String}
      (later : Settles tree links here.dropLast rest place) :
      Settles tree links here (".." :: rest) place
  | pass {links : Nat} {here place : Place} {name : String} {rest : List String}
      (plain : PlainName name) (unlinked : ∀ target, tree.entry? (here ++ [name]) ≠ some (.link target))
      (later : Settles tree links (here ++ [name]) rest place) :
      Settles tree links here (name :: rest) place
  | follow {inner outer : Nat} {here middle place : Place} {name target : String}
      {rest : List String} (plain : PlainName name)
      (found : tree.entry? (here ++ [name]) = some (.link target))
      (aside : Settles tree inner (linkStart here target) (split '/' target) middle)
      (later : Settles tree outer middle rest place) :
      Settles tree (inner + outer + 1) here (name :: rest) place

variable {tree : FileTree} {here place : Place} {names : List String} {links : Nat}

theorem Leads.settles (leads : tree.Leads links here names place) :
    tree.Settles links here names place := by
  induction leads with
  | arrived here => exact .done here
  | stay _ stays _ induction => exact .stay stays induction
  | climb _ _ induction => exact .climb induction
  | enter _ plain found unlinked _ induction =>
      exact .pass plain (fun target linked => unlinked target (Option.some.inj (found.symm.trans linked)))
        induction
  | follow _ plain found _ _ inner outer => exact .follow plain found inner outer

namespace Settles

theorem append {inner outer : Nat} {middle : Place} {first second : List String}
    (one : tree.Settles inner here first middle) (other : tree.Settles outer middle second place) :
    tree.Settles (inner + outer) here (first ++ second) place := by
  induction one with
  | done here =>
      rw [Nat.zero_add]
      exact other
  | stay stays _ induction => exact .stay stays (induction other)
  | climb _ induction => exact .climb (induction other)
  | pass plain unlinked _ induction => exact .pass plain unlinked (induction other)
  | @follow inner between here middle place name target rest plain found aside _ _ induction =>
      have counted : inner + between + 1 + outer = inner + (between + outer) + 1 := by omega
      rw [counted]
      exact .follow plain found aside (induction other)

/-- Where names settle, the first of them settle on the way. -/
theorem split {first second : List String} (whole : tree.Settles links here (first ++ second) place) :
    ∃ inner outer middle, tree.Settles inner here first middle ∧
      tree.Settles outer middle second place := by
  induction first generalizing here links with
  | nil => exact ⟨0, links, here, .done here, whole⟩
  | cons name rest induction =>
      cases whole with
      | stay stays later =>
          obtain ⟨inner, outer, middle, one, other⟩ := induction later
          exact ⟨inner, outer, middle, .stay stays one, other⟩
      | climb later =>
          obtain ⟨inner, outer, middle, one, other⟩ := induction later
          exact ⟨inner, outer, middle, .climb one, other⟩
      | pass plain unlinked later =>
          obtain ⟨inner, outer, middle, one, other⟩ := induction later
          exact ⟨inner, outer, middle, .pass plain unlinked one, other⟩
      | follow plain found aside later =>
          obtain ⟨inner, outer, middle, one, other⟩ := induction later
          exact ⟨_, outer, middle, .follow plain found aside one, other⟩

/-- Names settle at one place, through the same links. -/
theorem unique {others : Nat} {other : Place} (one : tree.Settles links here names place)
    (again : tree.Settles others here names other) : links = others ∧ place = other := by
  induction one generalizing others other with
  | done here =>
      cases again
      exact ⟨rfl, rfl⟩
  | stay stays _ induction =>
      cases again with
      | stay _ later => exact induction later
      | climb _ => simp at stays
      | pass plain _ _ => exact absurd stays (not_or.mpr ⟨plain.named, plain.moves⟩)
      | follow plain _ _ _ => exact absurd stays (not_or.mpr ⟨plain.named, plain.moves⟩)
  | climb _ induction =>
      cases again with
      | stay stays _ => simp at stays
      | climb later => exact induction later
      | pass plain _ _ => exact absurd rfl plain.descends
      | follow plain _ _ _ => exact absurd rfl plain.descends
  | pass plain unlinked _ induction =>
      cases again with
      | stay stays _ => exact absurd stays (not_or.mpr ⟨plain.named, plain.moves⟩)
      | climb _ => exact absurd rfl plain.descends
      | pass _ _ later => exact induction later
      | follow _ linked _ _ => exact absurd linked (unlinked _)
  | follow plain found _ _ inner outer =>
      cases again with
      | stay stays _ => exact absurd stays (not_or.mpr ⟨plain.named, plain.moves⟩)
      | climb _ => exact absurd rfl plain.descends
      | pass _ unlinked _ => exact absurd found (unlinked _)
      | follow _ linked aside later =>
          cases Option.some.inj (found.symm.trans linked)
          obtain ⟨counted, rfl⟩ := inner aside
          obtain ⟨countedLater, same⟩ := outer later
          exact ⟨by omega, same⟩

/-- The names of the place stand for entries, as those of the start do. -/
theorem plain_place (settles : tree.Settles links here names place) (plain : PlainPlace here) :
    PlainPlace place := by
  induction settles with
  | done here => exact plain
  | stay _ _ induction => exact induction plain
  | climb _ induction => exact induction plain.parent
  | pass named _ _ induction => exact induction (plain.child named)
  | follow _ _ _ _ inner outer => exact outer (inner (plain.start _))

end Settles

/-- Names lead to one place, through the same links. -/
theorem Leads.unique {others : Nat} {other : Place} (one : tree.Leads links here names place)
    (again : tree.Leads others here names other) : links = others ∧ place = other :=
  one.settles.unique again.settles

/-! Places without a link on the way. -/

/-- No link stands at the place or above it. -/
def Straight (tree : FileTree) (place : Place) : Prop :=
  ∀ above, above <+: place → ∀ target, tree.entry? above ≠ some (.link target)

theorem straight_top (tree : FileTree) : tree.Straight [] := by
  intro above leading target linked
  rw [List.prefix_nil.mp leading] at linked
  cases linked

theorem Straight.above {above : Place} (straight : tree.Straight place) (leading : above <+: place) :
    tree.Straight above :=
  fun other before => straight other (before.trans leading)

theorem Straight.child {name : String} (straight : tree.Straight place)
    (unlinked : ∀ target, tree.entry? (place ++ [name]) ≠ some (.link target)) :
    tree.Straight (place ++ [name]) := by
  intro above leading
  rcases List.prefix_concat_iff.mp leading with rfl | before
  · exact unlinked
  · exact straight above before

theorem Straight.start (straight : tree.Straight here) (target : String) :
    tree.Straight (linkStart here target) := by
  unfold linkStart
  split
  · exact straight_top tree
  · exact straight

theorem Settles.straight (settles : tree.Settles links here names place)
    (straight : tree.Straight here) : tree.Straight place := by
  induction settles with
  | done here => exact straight
  | stay _ _ induction => exact induction straight
  | climb _ induction => exact induction (straight.above (List.dropLast_prefix _))
  | pass _ unlinked _ induction => exact induction (straight.child unlinked)
  | follow _ _ _ _ inner outer => exact outer (inner (straight.start _))

theorem Reached.straight (reached : tree.Reached place) : tree.Straight place := by
  intro above leading target linked
  obtain ⟨behind, rfl⟩ := leading
  obtain ⟨entry, found, unlinked⟩ := reached.plain
  cases behind with
  | nil =>
      rw [List.append_nil, linked] at found
      exact unlinked target (Option.some.inj found).symm
  | cons name rest =>
      have directory := reached.above above.length (by simp)
      rw [List.take_left, isDirectoryAt, linked] at directory
      exact absurd directory (by simp)

/-- A walk along a place without a link comes to no link, so it does not fail for entering too many. -/
theorem advance_straight (plain : PlainPlace names) (straight : tree.Straight (here ++ names)) :
    (∃ landing, tree.advance here names = .landed landing) ∨
      tree.advance here names = .failed .notDirectory ∨ tree.advance here names = .failed .missing := by
  induction names generalizing here with
  | nil => exact .inl ⟨_, rfl⟩
  | cons name rest induction =>
      obtain ⟨named, later⟩ := List.forall_mem_cons.mp plain
      by_cases inside : tree.isDirectoryAt here = true
      · have onward := inside_iff.mpr inside
        have moves := moves_of_plain named
        rw [List.append_cons] at straight
        cases found : tree.entry? (here ++ [name]) with
        | none =>
            rw [advance_free onward moves named.descends found]
            split
            · exact .inl ⟨_, rfl⟩
            · exact .inr (.inr rfl)
        | some entry =>
            have unlinked : ∀ target, entry = .link target → False := by
              rintro target rfl
              exact straight _ (List.prefix_append _ _) target found
            rw [advance_enter onward moves named.descends found unlinked]
            exact induction later straight
      · rw [advance, if_pos (by simpa using inside)]
        exact .inr (.inl rfl)

theorem locate_straight (plain : PlainPlace place) (straight : tree.Straight place) :
    tree.locate place ≠ .error .tooManyLinks := by
  rw [locate, walk]
  rcases @advance_straight tree [] place plain straight with ⟨landing, halts⟩ | halts | halts
  · rw [halts]
    cases landing <;> simp
  · rw [halts]
    simp
  · rw [halts]
    simp

end RpgSymbols.FileTree
