import RpgSymbols.Proofs.Attempt.Assembling
import RpgSymbols.Proofs.Source.WellFormed

/-!
Lines and files in any order. A line may come at any position and without a file around it, so what
is open when it comes is not what the lines of one file leave open. Still no access goes wrong and
no record is refused, and what is gathered in the end is well-formed.
-/

namespace RpgSymbols

namespace SlotAssembler

def feed (state : SlotAssembler) : Feeding → Attempt SlotAssembler
  | .line position raw => state.feedLine position raw
  | .file path lines => state.feedFile path lines

def feedAll (state : SlotAssembler) : List Feeding → Attempt SlotAssembler
  | [] => .ok state
  | feeding :: rest => do
      let next ← state.feed feeding
      next.feedAll rest

end SlotAssembler

namespace Assembler

theorem consistent_feed {state : Assembler} (consistent : Consistent state) (feeding : Feeding) :
    Consistent (state.feed feeding) := by
  cases feeding with
  | line position raw => exact consistent_effect (feed_line_effect state position raw) consistent
  | file path lines => exact consistent_feed_file consistent path lines

theorem feed_slotted {state : Assembler} (consistent : Consistent state) (feeding : Feeding) :
    state.slotted.feed feeding = .ok (state.feed feeding).slotted := by
  cases feeding with
  | line position raw => exact feed_line_slotted consistent.distinct position raw
  | file path lines => exact feed_lines_slotted (consistent_begin_file state consistent) path 0 lines

theorem feed_all_slotted {state : Assembler} (consistent : Consistent state)
    (feedings : List Feeding) :
    state.slotted.feedAll feedings = .ok (feedings.foldl feed state).slotted := by
  induction feedings generalizing state with
  | nil => rfl
  | cons feeding rest induction =>
      rw [SlotAssembler.feedAll, feed_slotted consistent, Attempt.bind_ok,
        induction (consistent_feed consistent feeding), List.foldl_cons]

/-- Whatever lines and files an assembler is given, no access is beyond the end of a list, no lists
that go in step differ in length, and no record is refused; and the model in the end is well-formed:
each collection holds records of its own kind, keywords are the words of the source in upper case,
only procedures have parameters, and a parameter has neither title nor tags nor parameters of its
own. -/
theorem feedings_never_fail (feedings : List Feeding) :
    ∃ state, SlotAssembler.feedAll {} feedings = .ok state ∧
      state.finish = (feedAll feedings).finish ∧ state.finish.WellFormed := by
  have initial : Consistent {} := consistent_feed_all []
  have fed := feed_all_slotted initial feedings
  have formed := (well_formed_feed_all feedings).gathered
  exact ⟨(feedAll feedings).slotted, fed, rfl, formed⟩

end Assembler

end RpgSymbols
