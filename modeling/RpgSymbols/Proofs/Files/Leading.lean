import RpgSymbols.Proofs.Files.Writing
import Mathlib.Data.List.Induction

/-!
Where names lead. The relation `Leads` says which place names lead to through links, and how many
links are entered on the way. A walk that arrives is such a way, and each way is walked if it has no
more links than a walk may enter.
-/

namespace RpgSymbols.FileTree

open Text

/-- A name that stands for an entry: it neither stays in a directory nor leaves it. -/
structure PlainName (name : String) : Prop where
  named : name ≠ ""
  moves : name ≠ "."
  descends : name ≠ ".."

instance (name : String) : Decidable (PlainName name) :=
  decidable_of_iff (name ≠ "" ∧ name ≠ "." ∧ name ≠ "..")
    ⟨fun ⟨named, moves, descends⟩ => ⟨named, moves, descends⟩,
      fun plain => ⟨plain.named, plain.moves, plain.descends⟩⟩

/-- A name stays, steps up or stands for an entry. -/
theorem name_cases (name : String) : (name = "" ∨ name = ".") ∨ name = ".." ∨ PlainName name := by
  by_cases stays : name = "" ∨ name = "."
  · exact .inl stays
  · obtain ⟨named, moves⟩ := not_or.mp stays
    by_cases climbs : name = ".."
    · exact .inr (.inl climbs)
    · exact .inr (.inr ⟨named, moves, climbs⟩)

def PlainPlace (place : Place) : Prop := ∀ name ∈ place, PlainName name

instance (place : Place) : Decidable (PlainPlace place) :=
  inferInstanceAs (Decidable (∀ name ∈ place, PlainName name))

theorem plain_top : PlainPlace [] := by
  intro name listed
  cases listed

theorem PlainPlace.parent {place : Place} (plain : PlainPlace place) : PlainPlace place.dropLast :=
  fun name listed => plain name (List.dropLast_subset _ listed)

theorem PlainPlace.child {place : Place} (plain : PlainPlace place) {name : String}
    (named : PlainName name) : PlainPlace (place ++ [name]) := by
  intro other listed
  rcases List.mem_append.mp listed with above | last
  · exact plain other above
  · exact List.mem_singleton.mp last ▸ named

theorem PlainPlace.start {directory : Place} (plain : PlainPlace directory) (target : String) :
    PlainPlace (linkStart directory target) := by
  unfold linkStart
  split
  · exact plain_top
  · exact plain

/-- Names lead from one place to another, and enter a number of links on the way. -/
inductive Leads (tree : FileTree) : Nat → Place → List String → Place → Prop
  | arrived (place : Place) : Leads tree 0 place [] place
  | stay {links : Nat} {here place : Place} {name : String} {rest : List String}
      (inside : tree.isDirectoryAt here = true) (stays : name = "" ∨ name = ".")
      (later : Leads tree links here rest place) : Leads tree links here (name :: rest) place
  | climb {links : Nat} {here place : Place} {rest : List String}
      (inside : tree.isDirectoryAt here = true)
      (later : Leads tree links here.dropLast rest place) : Leads tree links here (".." :: rest) place
  | enter {links : Nat} {here place : Place} {name : String} {rest : List String} {entry : Entry}
      (inside : tree.isDirectoryAt here = true) (plain : PlainName name)
      (found : tree.entry? (here ++ [name]) = some entry)
      (unlinked : ∀ target, entry ≠ .link target)
      (later : Leads tree links (here ++ [name]) rest place) :
      Leads tree links here (name :: rest) place
  | follow {inner outer : Nat} {here middle place : Place} {name target : String}
      {rest : List String} (inside : tree.isDirectoryAt here = true) (plain : PlainName name)
      (found : tree.entry? (here ++ [name]) = some (.link target))
      (aside : Leads tree inner (linkStart here target) (split '/' target) middle)
      (later : Leads tree outer middle rest place) :
      Leads tree (inner + outer + 1) here (name :: rest) place

variable {tree : FileTree} {here place : Place} {names : List String} {links : Nat}

namespace Leads

theorem append {inner outer : Nat} {middle : Place} {first second : List String}
    (one : tree.Leads inner here first middle) (other : tree.Leads outer middle second place) :
    tree.Leads (inner + outer) here (first ++ second) place := by
  induction one with
  | arrived here =>
      rw [Nat.zero_add]
      exact other
  | stay inside stays _ induction => exact .stay inside stays (induction other)
  | climb inside _ induction => exact .climb inside (induction other)
  | enter inside plain found unlinked _ induction =>
      exact .enter inside plain found unlinked (induction other)
  | @follow inner between here middle place name target rest inside plain found aside _ _
      induction =>
      have counted : inner + between + 1 + outer = inner + (between + outer) + 1 := by omega
      rw [counted]
      exact .follow inside plain found aside (induction other)

theorem of_append {first second : List String} (leads : tree.Leads links here (first ++ second) place) :
    ∃ inner outer middle, links = inner + outer ∧ tree.Leads inner here first middle ∧
      tree.Leads outer middle second place := by
  induction first generalizing links here with
  | nil => exact ⟨0, links, here, (Nat.zero_add links).symm, .arrived here, leads⟩
  | cons name rest induction =>
      cases leads with
      | stay inside stays later =>
          obtain ⟨inner, outer, middle, counted, one, other⟩ := induction later
          exact ⟨inner, outer, middle, counted, .stay inside stays one, other⟩
      | climb inside later =>
          obtain ⟨inner, outer, middle, counted, one, other⟩ := induction later
          exact ⟨inner, outer, middle, counted, .climb inside one, other⟩
      | enter inside plain found unlinked later =>
          obtain ⟨inner, outer, middle, counted, one, other⟩ := induction later
          exact ⟨inner, outer, middle, counted, .enter inside plain found unlinked one, other⟩
      | @follow before _ _ _ _ _ _ _ inside plain found aside later =>
          obtain ⟨inner, outer, middle, counted, one, other⟩ := induction later
          exact ⟨before + inner + 1, outer, middle, by omega, .follow inside plain found aside one,
            other⟩

/-- The names of the place that is led to stand for entries, as those of the start do. -/
theorem plain_place (leads : tree.Leads links here names place) (plain : PlainPlace here) :
    PlainPlace place := by
  induction leads with
  | arrived here => exact plain
  | stay _ _ _ induction => exact induction plain
  | climb _ _ induction => exact induction plain.parent
  | enter _ named _ _ _ induction => exact induction (plain.child named)
  | follow _ _ _ _ _ inner outer => exact outer (inner (plain.start _))

end Leads

/-! Walks and ways. -/

theorem inside_iff : ¬(!tree.isDirectoryAt here) = true ↔ tree.isDirectoryAt here = true := by
  simp

theorem moves_of_plain {name : String} (plain : PlainName name) :
    ¬(decide (name = "") || decide (name = ".")) = true := by
  simp [plain.named, plain.moves]

section Steps

variable {name : String} {rest : List String} (follow : Bool) (budget : Nat)
  (inside : tree.isDirectoryAt here = true)
include inside

theorem walk_stay (stays : name = "" ∨ name = ".") :
    tree.walk follow budget here (name :: rest) = tree.walk follow budget here rest := by
  have advanced : tree.advance here (name :: rest) = tree.advance here rest := by
    rw [advance, if_neg (inside_iff.mpr inside), if_pos (by simpa using stays)]
  rw [walk, advanced, ← walk]

theorem walk_climb :
    tree.walk follow budget here (".." :: rest) = tree.walk follow budget here.dropLast rest := by
  have advanced : tree.advance here (".." :: rest) = tree.advance here.dropLast rest := by
    rw [advance, if_neg (inside_iff.mpr inside), if_neg (by decide), if_pos rfl]
  rw [walk, advanced, ← walk]

theorem walk_enter (plain : PlainName name) {entry : Entry}
    (found : tree.entry? (here ++ [name]) = some entry) (unlinked : ∀ target, entry ≠ .link target) :
    tree.walk follow budget here (name :: rest) =
      tree.walk follow budget (here ++ [name]) rest := by
  rw [walk, advance_enter (inside_iff.mpr inside) (moves_of_plain plain) plain.descends found
    unlinked, ← walk]

theorem walk_link (plain : PlainName name) {target : String}
    (found : tree.entry? (here ++ [name]) = some (.link target)) :
    tree.walk true (budget + 1) here (name :: rest) =
      tree.walk true budget (linkStart here target) (split '/' target ++ rest) := by
  rw [walk, advance_link (inside_iff.mpr inside) (moves_of_plain plain) plain.descends found]
  simp

end Steps

theorem walk_of_leads (leads : tree.Leads links here names place) (budget : Nat)
    (rest : List String) :
    tree.walk true (links + budget) here (names ++ rest) = tree.walk true budget place rest := by
  induction leads generalizing budget rest with
  | arrived here => rw [Nat.zero_add, List.nil_append]
  | stay inside stays _ induction =>
      rw [List.cons_append, walk_stay true _ inside stays, induction]
  | climb inside _ induction => rw [List.cons_append, walk_climb true _ inside, induction]
  | enter inside plain found unlinked _ induction =>
      rw [List.cons_append, walk_enter true _ inside plain found unlinked, induction]
  | @follow inner outer here middle place name target names inside plain found _ _ aside later =>
      have counted : inner + outer + 1 + budget = inner + (outer + budget) + 1 := by omega
      rw [List.cons_append, counted, walk_link _ inside plain found, aside, later]

theorem leads_of_advance :
    (∀ place, tree.advance here names = .landed (.present place) →
      tree.Leads 0 here names place) ∧
    ∀ directory name target rest,
      tree.advance here names = .atLink directory name target rest →
      ∀ inner outer middle place,
        tree.Leads inner (linkStart directory target) (split '/' target) middle →
        tree.Leads outer middle rest place → tree.Leads (inner + outer + 1) here names place := by
  fun_induction tree.advance here names with
  | case1 here =>
      refine ⟨?_, by simp⟩
      rintro place ⟨rfl⟩
      exact .arrived here
  | case2 here name rest blocked => simp
  | case3 here name rest inside stays induction =>
      have directory := inside_iff.mp inside
      have named : name = "" ∨ name = "." := by simpa using stays
      exact ⟨fun place lands => .stay directory named (induction.1 place lands),
        fun _ _ _ _ halts _ _ _ _ aside later =>
          .stay directory named (induction.2 _ _ _ _ halts _ _ _ _ aside later)⟩
  | case4 here rest inside moves induction =>
      have directory := inside_iff.mp inside
      exact ⟨fun place lands => .climb directory (induction.1 place lands),
        fun _ _ _ _ halts _ _ _ _ aside later =>
          .climb directory (induction.2 _ _ _ _ halts _ _ _ _ aside later)⟩
  | case5 here name rest inside moves climbs next free last => simp
  | case6 here name rest inside moves climbs next free more => simp
  | case7 here name rest inside moves climbs next target linked =>
      refine ⟨by simp, ?_⟩
      rintro _ _ _ _ ⟨rfl, rfl, rfl, rfl⟩ inner outer middle place aside later
      simp only [Bool.or_eq_true, decide_eq_true_eq, not_or] at moves
      exact .follow (inside_iff.mp inside) ⟨moves.1, moves.2, climbs⟩ linked aside later
  | case8 here name rest inside moves climbs next entry unlinked found induction =>
      simp only [Bool.or_eq_true, decide_eq_true_eq, not_or] at moves
      have directory := inside_iff.mp inside
      have plain : PlainName name := ⟨moves.1, moves.2, climbs⟩
      exact ⟨fun place lands => .enter directory plain found unlinked (induction.1 place lands),
        fun _ _ _ _ halts _ _ _ _ aside later =>
          .enter directory plain found unlinked (induction.2 _ _ _ _ halts _ _ _ _ aside later)⟩

theorem leads_of_walk {budget : Nat}
    (lands : tree.walk true budget here names = .ok (.present place)) :
    ∃ links ≤ budget, tree.Leads links here names place := by
  fun_induction tree.walk true budget here names with
  | case1 budget here names landing halts =>
      cases lands
      exact ⟨0, Nat.zero_le budget, leads_of_advance.1 place halts⟩
  | case2 budget here names error halts => cases lands
  | case3 budget here names directory name target rest halts ends => simp at ends
  | case4 here names directory name target rest halts continues => cases lands
  | case5 here names directory name target rest halts continues budget induction =>
      obtain ⟨links, bound, leads⟩ := induction lands
      obtain ⟨inner, outer, middle, counted, aside, later⟩ := leads.of_append
      exact ⟨inner + outer + 1, by omega,
        leads_of_advance.2 _ _ _ _ halts inner outer middle place aside later⟩

/-- A path is located exactly at the place it leads to through links that one walk may enter. -/
theorem locate_iff : tree.locate names = .ok place ↔
    ∃ links ≤ linkLimit, tree.Leads links [] names place := by
  constructor
  · intro locates
    unfold locate at locates
    split at locates
    · rename_i lands
      cases locates
      exact leads_of_walk lands
    · cases locates
    · cases locates
  · rintro ⟨links, bound, leads⟩
    have walked := walk_of_leads leads (linkLimit - links) []
    rw [Nat.add_sub_cancel' bound, List.append_nil] at walked
    rw [locate, walked, walk, advance]

/-- A place that can be walked to is where its own names lead. -/
theorem Reached.leads (reached : tree.Reached place) (plain : PlainPlace place) :
    tree.Leads 0 [] place place := by
  induction place using List.reverseRecOn with
  | nil => exact .arrived []
  | append_singleton above name induction =>
      have parent := reached.parent
      rw [List.dropLast_concat] at parent
      have led := induction parent fun other listed => plain other (List.mem_append_left _ listed)
      have directory := reached.above above.length (by simp)
      rw [List.take_left] at directory
      obtain ⟨entry, found, unlinked⟩ := reached.plain
      have last := plain name (List.mem_append_right _ (List.mem_singleton_self name))
      exact led.append (.enter directory last found unlinked (.arrived _))

/-- What is located is located again by the names of its place. -/
theorem leads_of_located (locates : tree.locate names = .ok place) :
    tree.Reached place ∧ PlainPlace place ∧ tree.Leads 0 [] place place := by
  obtain ⟨links, bound, leads⟩ := locate_iff.mp locates
  have walked := walk_of_leads leads 0 []
  have lands : tree.walk true (links + 0) [] (names ++ []) = .ok (.present place) := by
    rw [walked, walk, advance]
  have reached := walk_reached (reached_top tree) lands
  have plain := leads.plain_place plain_top
  exact ⟨reached, plain, reached.leads plain⟩

end RpgSymbols.FileTree
