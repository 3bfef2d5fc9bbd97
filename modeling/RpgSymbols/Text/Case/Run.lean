/-!
Case mappings as data: runs of letters that keep one distance from their image, and single
characters whose image is a text of its own.
-/

namespace RpgSymbols.Text

/-- The characters `first`, `first + step`, …, `last`, each `shift` code points from its image. -/
structure CaseRun where
  first : Nat
  last : Nat
  step : Nat
  shift : Int

/-- A case mapping. Both lists are in increasing order of code point. -/
structure CaseMap where
  runs : List CaseRun
  expansions : List (Nat × List Nat)

/-- The image of a code point under the run that holds it. The search ends at the first run that
begins beyond the code point. -/
def shiftedCode (code : Nat) : List CaseRun → Option Nat
  | [] => none
  | run :: rest =>
      if code < run.first then none
      else if code ≤ run.last && (code - run.first) % run.step == 0 then
        some (code + run.shift).toNat
      else shiftedCode code rest

def expandedCode (code : Nat) : List (Nat × List Nat) → Option (List Nat)
  | [] => none
  | (first, image) :: rest =>
      if code < first then none
      else if code == first then some image
      else expandedCode code rest

def CaseMap.char (map : CaseMap) (c : Char) : List Char :=
  match expandedCode c.toNat map.expansions with
  | some image => image.map Char.ofNat
  | none =>
      match shiftedCode c.toNat map.runs with
      | some code => [Char.ofNat code]
      | none => [c]

def CaseMap.text (map : CaseMap) (text : String) : String :=
  String.ofList (text.toList.flatMap map.char)

end RpgSymbols.Text
