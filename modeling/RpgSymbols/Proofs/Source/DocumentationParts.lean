import Mathlib.Data.Nat.Find
import RpgSymbols.Proofs.Text.Trimming
import RpgSymbols.Source.Documentation

/-!
What comments come to. A tracker is told one thing after the other; here its documentation is read
off the calls as a whole. Those comments count that stand behind the last call that starts afresh.
What comes before the first tag is the title and the description, and every tag takes the comments
up to the next one.
-/

namespace RpgSymbols

open Text

/-! Comments divided at the tags. -/

def opensTag (comment : String) : Bool := startsWith comment "@"

theorem opens_tag_iff (comment : String) :
    opensTag comment = true ↔ ∃ rest, comment.toList = '@' :: rest := by
  rw [opensTag, startsWith, List.isPrefixOf_iff_prefix]
  constructor
  · intro ⟨rest, spelled⟩
    exact ⟨rest, spelled.symm⟩
  · intro ⟨rest, spelled⟩
    exact ⟨rest, spelled.symm⟩

structure TagGroup where
  head : String
  others : List String
  deriving DecidableEq, Repr

/-- Comments divided before every one that begins a tag. -/
structure Sections where
  plain : List String
  groups : List TagGroup
  deriving DecidableEq, Repr

namespace Sections

def of : List String → Sections
  | [] => ⟨[], []⟩
  | comment :: rest =>
      if opensTag comment then ⟨[], ⟨comment, (of rest).plain⟩ :: (of rest).groups⟩
      else ⟨comment :: (of rest).plain, (of rest).groups⟩

/-- Nothing is left out, and the comments are divided before every tag and nowhere else. -/
structure Divides (comments : List String) (sections : Sections) : Prop where
  whole : sections.plain ++ sections.groups.flatMap (fun group => group.head :: group.others) =
    comments
  plain : ∀ comment ∈ sections.plain, opensTag comment = false
  heads : ∀ group ∈ sections.groups, opensTag group.head = true
  others : ∀ group ∈ sections.groups, ∀ comment ∈ group.others, opensTag comment = false

theorem divides_of (comments : List String) : Divides comments (of comments) := by
  induction comments with
  | nil => exact ⟨rfl, by simp [of], by simp [of], by simp [of]⟩
  | cons comment rest induction =>
      obtain ⟨whole, plain, heads, others⟩ := induction
      by_cases opens : opensTag comment = true
      · rw [of, if_pos opens]
        constructor
        · simpa using whole
        · simp
        · simpa [opens] using heads
        · simpa using ⟨plain, others⟩
      · rw [of, if_neg opens]
        constructor
        · simpa using whole
        · simpa [opens] using plain
        · exact heads
        · exact others

section Concat

variable {comments : List String} {comment : String}

theorem concat_tag (opens : opensTag comment = true) :
    of (comments ++ [comment]) =
      ⟨(of comments).plain, (of comments).groups ++ [⟨comment, []⟩]⟩ := by
  induction comments with
  | nil => simp [of, opens]
  | cons first rest induction =>
      rw [List.cons_append, of, of, induction]
      split <;> rfl

variable (plain : opensTag comment = false)
include plain

theorem concat_untagged (untagged : (of comments).groups = []) :
    of (comments ++ [comment]) = ⟨(of comments).plain ++ [comment], []⟩ := by
  induction comments with
  | nil => simp [of, plain]
  | cons first rest induction =>
      rw [of] at untagged
      split at untagged
      · cases untagged
      · rename_i closed
        rw [List.cons_append, of, of, induction untagged, if_neg closed, if_neg closed]
        rfl

theorem concat_tagged {earlier : List TagGroup} {last : TagGroup}
    (tagged : (of comments).groups = earlier ++ [last]) :
    of (comments ++ [comment]) =
      ⟨(of comments).plain, earlier ++ [⟨last.head, last.others ++ [comment]⟩]⟩ := by
  induction comments generalizing earlier with
  | nil => simp [of] at tagged
  | cons first rest induction =>
      rw [of] at tagged
      rw [List.cons_append, of, of]
      split at tagged
      · rename_i opens
        rw [if_pos opens, if_pos opens]
        cases earlier with
        | nil =>
            obtain ⟨same, untagged⟩ := List.cons.inj tagged
            rw [concat_untagged plain untagged, ← same]
            rfl
        | cons group earlier =>
            obtain ⟨same, behind⟩ := List.cons.inj tagged
            rw [induction behind, ← same]
            rfl
      · rename_i closed
        rw [if_neg closed, if_neg closed, induction tagged]

end Concat

end Sections

namespace Tag

/-- The tag of a group. Its name reaches up to the first blank, and the rest of that comment and the
other comments are its content. -/
def ofGroup (group : TagGroup) : Tag :=
  let text := String.ofList (group.head.toList.drop 1)
  let parts := trim (after ' ' text) :: group.others
  ⟨before ' ' text, join " " (parts.filter fun part => !part.isEmpty)⟩

theorem of_group_alone (comment : String) :
    ofGroup ⟨comment, []⟩ = DocumentationTracker.tagOf (String.ofList (comment.toList.drop 1)) := by
  rw [ofGroup, DocumentationTracker.tagOf]
  dsimp only
  generalize trim (after ' ' (String.ofList (comment.toList.drop 1))) = text
  by_cases empty : text = ""
  · rw [empty]
    rfl
  · rw [List.filter_cons_of_pos (by simpa using empty), List.filter_nil, join]

/-- A comment behind the others is added to what the tag says. -/
theorem of_group_concat {head comment : String} {others : List String}
    (trimmed : ∀ other ∈ others, Trimmed other) (ending : Trimmed comment) :
    ofGroup ⟨head, others ++ [comment]⟩ =
      { ofGroup ⟨head, others⟩ with
        content := trim ((ofGroup ⟨head, others⟩).content ++ " " ++ comment) } := by
  unfold ofGroup
  dsimp only
  have ends := trim_trim (after ' ' (String.ofList (head.toList.drop 1)))
  generalize trim (after ' ' (String.ofList (head.toList.drop 1))) = rest at ends ⊢
  have parts : ∀ part ∈ (rest :: others).filter (fun part => !part.isEmpty), Trimmed part := by
    intro part listed
    obtain ⟨listed, some⟩ := List.mem_filter.mp listed
    rcases List.mem_cons.mp listed with first | other
    · rw [first] at some ⊢
      exact ⟨ends, by simpa using some⟩
    · exact trimmed part other
  have kept : [comment].filter (fun part => !part.isEmpty) = [comment] := by
    simpa using ending.some
  rw [trim_join_concat parts ending, ← List.cons_append, List.filter_append, kept]

end Tag

namespace DocumentationTracker

/-! Calls that a tracker gets. -/

inductive Call where
  | toggle
  | reset
  | feed (comment : String)
  deriving DecidableEq, Repr

/-- What a call adds to the comments: the one it feeds, without the blanks around it, unless there
is nothing else. -/
def Call.comment? : Call → Option String
  | .feed comment => if trim comment = "" then none else some (trim comment)
  | _ => none

theorem Call.trimmed_comment {call : Call} {comment : String}
    (adds : call.comment? = some comment) : Trimmed comment := by
  cases call with
  | toggle => cases adds
  | reset => cases adds
  | feed text =>
      rw [Call.comment?] at adds
      split at adds
      · cases adds
      · rename_i written
        cases adds
        exact ⟨trim_trim text, written⟩

def perform (tracker : DocumentationTracker) : Call → DocumentationTracker
  | .toggle => tracker.toggle
  | .reset => tracker.reset
  | .feed comment => tracker.feed comment

def performAll (calls : List Call) : DocumentationTracker := calls.foldl perform {}

/-- Every second toggle closes a block, so an odd number of them leaves one open. -/
def opened (calls : List Call) : Bool := calls.count .toggle % 2 = 1

/-- The last of the calls is a reset, or it has opened a block. -/
def EndsAfresh (calls : List Call) : Prop :=
  calls.getLast? = some .reset ∨ calls.getLast? = some .toggle ∧ opened calls = true

instance (calls : List Call) : Decidable (EndsAfresh calls) :=
  inferInstanceAs (Decidable (_ ∨ _ ∧ _))

/-- How many calls there are up to the last one that starts afresh. -/
def lastStart (calls : List Call) : Nat :=
  Nat.findGreatest (fun count => EndsAfresh (calls.take count)) calls.length

def gathered (calls : List Call) : List String :=
  (calls.drop (lastStart calls)).filterMap Call.comment?

theorem opened_toggle (calls : List Call) : opened (calls ++ [.toggle]) = !opened calls := by
  unfold opened
  rw [List.count_append, List.count_singleton_self]
  grind

theorem opened_other (calls : List Call) {call : Call} (other : call ≠ .toggle) :
    opened (calls ++ [call]) = opened calls := by
  unfold opened
  rw [List.count_append, List.count_singleton, beq_false_of_ne other]
  rfl

theorem ends_afresh_concat (calls : List Call) (call : Call) :
    EndsAfresh (calls ++ [call]) ↔ call = .reset ∨ call = .toggle ∧ opened calls = false := by
  rw [EndsAfresh, List.getLast?_concat, Option.some.injEq, Option.some.injEq]
  cases call with
  | toggle => simp [opened_toggle]
  | reset => simp
  | feed comment => simp

theorem last_start_concat (calls : List Call) (call : Call) :
    lastStart (calls ++ [call]) =
      if EndsAfresh (calls ++ [call]) then calls.length + 1 else lastStart calls := by
  have earlier : ∀ count ≤ calls.length,
      Nat.findGreatest (fun count => EndsAfresh ((calls ++ [call]).take count)) count =
        Nat.findGreatest (fun count => EndsAfresh (calls.take count)) count := by
    intro count within
    induction count with
    | zero => rfl
    | succ count induction =>
        rw [Nat.findGreatest_succ, Nat.findGreatest_succ, induction (Nat.le_of_succ_le within),
          List.take_append_of_le_length within]
  have whole : (calls ++ [call]).take (calls.length + 1) = calls ++ [call] := by
    apply List.take_of_length_le
    simp
  rw [lastStart, List.length_append, List.length_singleton, Nat.findGreatest_succ, whole,
    earlier _ (Nat.le_refl _), lastStart]

theorem gathered_concat (calls : List Call) (call : Call) :
    gathered (calls ++ [call]) =
      if EndsAfresh (calls ++ [call]) then [] else gathered calls ++ call.comment?.toList := by
  rw [gathered, last_start_concat]
  split
  · rw [List.drop_of_length_le (by simp)]
    rfl
  · have within : lastStart calls ≤ calls.length := Nat.findGreatest_le _
    rw [List.drop_append_of_le_length within, List.filterMap_append]
    cases adds : call.comment? <;> simp [gathered, adds]

theorem gathered_trimmed {calls : List Call} : ∀ comment ∈ gathered calls, Trimmed comment := by
  intro comment listed
  obtain ⟨call, _, adds⟩ := List.mem_filterMap.mp listed
  exact Call.trimmed_comment adds

/-! What one comment does. -/

theorem feed_of_empty (tracker : DocumentationTracker) (comment : String)
    (empty : trim comment = "") : tracker.feed comment = tracker := by
  simp [feed, empty]

theorem feed_tag (tracker : DocumentationTracker) {comment : String}
    (opens : opensTag (trim comment) = true) :
    tracker.feed comment =
      { tracker with tags := tracker.tags ++ [Tag.ofGroup ⟨trim comment, []⟩] } := by
  obtain ⟨rest, spelled⟩ := (opens_tag_iff _).mp opens
  rw [Tag.of_group_alone, feed, spelled]
  rfl

theorem feed_plain (tracker : DocumentationTracker) {comment : String}
    (written : trim comment ≠ "") (plain : opensTag (trim comment) = false) :
    tracker.feed comment =
      if !tracker.tags.isEmpty then
        { tracker with tags := continueLast (trim comment) tracker.tags }
      else if tracker.title.isNone then { tracker with title := some (trim comment) }
      else { tracker with description := tracker.description ++ [trim comment] } := by
  unfold feed
  dsimp only
  split
  · rename_i empty
    exact absurd (String.toList_eq_nil_iff.mp empty) written
  · rename_i rest spelled
    rw [(opens_tag_iff _).mpr ⟨rest, spelled⟩] at plain
    cases plain
  · rfl

theorem continue_last_concat (comment : String) (tags : List Tag) (last : Tag) :
    continueLast comment (tags ++ [last]) =
      tags ++ [{ last with content := trim (last.content ++ " " ++ comment) }] := by
  induction tags with
  | nil => rfl
  | cons tag rest induction =>
      rw [List.cons_append, continueLast, induction, List.cons_append]
      simp

/-! The tracker that comments lead to. -/

def ofComments (active : Bool) (comments : List String) : DocumentationTracker :=
  let sections := Sections.of comments
  ⟨active, sections.plain.head?, sections.plain.tail, sections.groups.map Tag.ofGroup⟩

/-- A toggle that closes a block keeps the comments. -/
theorem toggle_of_comments (active : Bool) (comments : List String) :
    (ofComments active comments).toggle = ofComments (!active) (if active then comments else []) := by
  cases active <;> rfl

theorem feed_of_comments (active : Bool) {comments : List String}
    (trimmed : ∀ comment ∈ comments, Trimmed comment) (text : String) :
    (ofComments active comments).feed text =
      ofComments active (comments ++ (Call.feed text).comment?.toList) := by
  by_cases empty : trim text = ""
  · rw [feed_of_empty _ _ empty, Call.comment?, if_pos empty, Option.toList_none, List.append_nil]
  rw [Call.comment?, if_neg empty, Option.toList_some]
  by_cases opens : opensTag (trim text) = true
  · rw [feed_tag _ opens, ofComments, ofComments, Sections.concat_tag opens]
    simp
  have plain : opensTag (trim text) = false := Bool.eq_false_iff.mpr opens
  rw [feed_plain _ empty plain]
  rcases List.eq_nil_or_concat (Sections.of comments).groups with untagged | ⟨earlier, last, tagged⟩
  · rw [ofComments, ofComments, Sections.concat_untagged plain untagged]
    dsimp only
    rw [untagged]
    cases (Sections.of comments).plain with
    | nil => rfl
    | cons title description => rfl
  · rw [List.concat_eq_append] at tagged
    have kept : ∀ other ∈ last.others, Trimmed other := by
      intro other listed
      apply trimmed
      rw [← (Sections.divides_of comments).whole, tagged]
      simp [listed]
    rw [ofComments, ofComments, Sections.concat_tagged plain tagged]
    dsimp only
    rw [tagged, List.map_append, List.map_append, List.map_singleton, List.map_singleton,
      continue_last_concat, Tag.of_group_concat kept ⟨trim_trim text, empty⟩]
    simp

theorem perform_all_of_comments (calls : List Call) :
    performAll calls = ofComments (opened calls) (gathered calls) := by
  induction calls using List.reverseRecOn with
  | nil => rfl
  | append_singleton calls call induction =>
      have last : performAll (calls ++ [call]) = perform (performAll calls) call := by
        rw [performAll, List.foldl_concat, performAll]
      have afresh := ends_afresh_concat calls call
      rw [last, induction, gathered_concat]
      cases call with
      | toggle =>
          have silent : Call.toggle.comment? = none := rfl
          rw [opened_toggle, perform, toggle_of_comments, silent, Option.toList_none,
            List.append_nil]
          by_cases active : opened calls = true
          · rw [if_pos active, if_neg (by simp [afresh, active])]
          · rw [if_neg active, if_pos (by simp [afresh, active])]
      | reset =>
          rw [opened_other calls (by decide), if_pos (afresh.mpr (.inl rfl))]
          rfl
      | feed comment =>
          have going : ¬EndsAfresh (calls ++ [.feed comment]) := by
            simp [afresh]
          rw [opened_other calls (by simp), if_neg going, perform,
            feed_of_comments _ gathered_trimmed]

/-- Whatever a tracker is told, it comes to this. The comments since the last fresh start are divided
before every tag. The first one in front of all tags is the title and the others are the
description, joined by blanks; behind them stands one tag for every group, in their order. -/
theorem snapshot_perform_all (calls : List Call) :
    let sections := Sections.of (gathered calls)
    sections.Divides (gathered calls) ∧
      (performAll calls).snapshot = ⟨sections.plain.head?, join " " sections.plain.tail,
        sections.groups.map Tag.ofGroup⟩ := by
  intro sections
  constructor
  · exact Sections.divides_of (gathered calls)
  · rw [perform_all_of_comments]
    rfl

example :
    (performAll [.feed "lost", .toggle, .feed " Prices", .feed "in cents ", .feed "", .toggle,
      .feed "@param net", .feed " before tax", .feed "@return"]).snapshot =
        ⟨some "Prices", "in cents", [⟨"param", "net before tax"⟩, ⟨"return", ""⟩]⟩ := by
  decide +kernel

end DocumentationTracker

end RpgSymbols
