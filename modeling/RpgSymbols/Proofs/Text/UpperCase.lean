import RpgSymbols.Text.Case.Upper

/-!
Upper-casing twice is upper-casing once. The tables of a case mapping decide it: no image in them
may have an image of its own. The code points on either side are compared as sets of bits.
-/

namespace RpgSymbols.Text

def CaseRun.codes (run : CaseRun) : List Nat :=
  (List.range ((run.last - run.first) / run.step + 1)).map fun index =>
    run.first + run.step * index

namespace CaseMap

def sources (map : CaseMap) : List Nat :=
  map.expansions.map Prod.fst ++ map.runs.flatMap CaseRun.codes

def images (map : CaseMap) : List Nat :=
  0 :: map.expansions.flatMap Prod.snd ++
    map.runs.flatMap fun run => run.codes.map fun code : Nat => (code + run.shift).toNat

end CaseMap

/-- A set of numbers, as the bits of one. -/
def bits (numbers : List Nat) : Nat := numbers.foldr (fun number set => 1 <<< number ||| set) 0

theorem test_bits (numbers : List Nat) (number : Nat) :
    (bits numbers).testBit number = decide (number ∈ numbers) := by
  induction numbers with
  | nil => simp [bits]
  | cons first rest induction =>
      have single : (1 <<< first).testBit number = decide (number = first) := by
        rw [Nat.one_shiftLeft, Nat.testBit_two_pow]
        exact decide_eq_decide.mpr eq_comm
      rw [bits, List.foldr_cons, Nat.testBit_or, single, ← bits, induction,
        ← Bool.decide_or]
      exact decide_eq_decide.mpr List.mem_cons.symm

theorem disjoint_of_bits (first second : List Nat) (apart : bits first &&& bits second = 0)
    (number : Nat) (member : number ∈ second) : number ∉ first := by
  intro shared
  have both : (bits first &&& bits second).testBit number = true := by
    simp [test_bits, shared, member]
  simp [apart] at both

theorem mem_codes (run : CaseRun) (code : Nat) (lower : run.first ≤ code)
    (bound : code ≤ run.last) (aligned : (code - run.first) % run.step = 0) :
    code ∈ run.codes := by
  have steps : run.step * ((code - run.first) / run.step) = code - run.first :=
    Nat.mul_div_cancel' (Nat.dvd_of_mod_eq_zero aligned)
  have within : (code - run.first) / run.step < (run.last - run.first) / run.step + 1 :=
    Nat.lt_succ_of_le (Nat.div_le_div_right (Nat.sub_le_sub_right bound run.first))
  refine List.mem_map.mpr ⟨(code - run.first) / run.step, List.mem_range.mpr within, ?_⟩
  rw [steps]
  exact Nat.add_sub_cancel' lower

theorem shifted_code_run (code image : Nat) (runs : List CaseRun)
    (shifted : shiftedCode code runs = some image) :
    ∃ run ∈ runs, code ∈ run.codes ∧ image = (code + run.shift).toNat := by
  induction runs with
  | nil => cases shifted
  | cons run rest induction =>
      simp only [shiftedCode] at shifted
      split at shifted
      · cases shifted
      · rename_i lower
        split at shifted
        · rename_i held
          obtain ⟨bound, aligned⟩ := Bool.and_eq_true_iff.mp held
          cases shifted
          refine ⟨run, List.mem_cons_self, ?_, rfl⟩
          exact mem_codes run code (Nat.le_of_not_lt lower) (of_decide_eq_true bound)
            (eq_of_beq aligned)
        · obtain ⟨found, member, image⟩ := induction shifted
          exact ⟨found, List.mem_cons_of_mem _ member, image⟩

theorem expanded_code_entry (code : Nat) (image : List Nat) (entries : List (Nat × List Nat))
    (expanded : expandedCode code entries = some image) : (code, image) ∈ entries := by
  induction entries with
  | nil => cases expanded
  | cons entry rest induction =>
      simp only [expandedCode] at expanded
      split at expanded
      · cases expanded
      · split at expanded
        · rename_i same
          cases expanded
          rw [eq_of_beq same]
          exact List.mem_cons_self
        · exact List.mem_cons_of_mem _ (induction expanded)

/-- A character outside the tables stays as it is. -/
theorem char_of_not_source (map : CaseMap) (c : Char) (outside : c.toNat ∉ map.sources) :
    map.char c = [c] := by
  have whole : expandedCode c.toNat map.expansions = none := by
    rw [Option.eq_none_iff_forall_ne_some]
    intro image expanded
    have listed := List.mem_map_of_mem (f := Prod.fst) (expanded_code_entry _ _ _ expanded)
    exact outside (List.mem_append_left _ listed)
  have unmoved : shiftedCode c.toNat map.runs = none := by
    rw [Option.eq_none_iff_forall_ne_some]
    intro image shifted
    obtain ⟨run, listed, held, _⟩ := shifted_code_run _ _ _ shifted
    exact outside (List.mem_append_right _ (List.mem_flatMap.mpr ⟨run, listed, held⟩))
  simp only [CaseMap.char, whole, unmoved]

theorem image_code (map : CaseMap) (code : Nat) (member : code ∈ map.images) :
    (Char.ofNat code).toNat ∈ map.images := by
  unfold Char.ofNat
  by_cases valid : code.isValidChar
  · rw [dif_pos valid]
    exact member
  · rw [dif_neg valid]
    exact List.mem_cons_self

/-- A letter of an image is in the tables, unless the character stays as it is. -/
theorem mem_char_cases (map : CaseMap) {c image : Char} (member : image ∈ map.char c) :
    (image = c ∧ map.char c = [c]) ∨ image.toNat ∈ map.images := by
  unfold CaseMap.char at member
  split at member
  · rename_i codes expanded
    obtain ⟨code, listed, rfl⟩ := List.mem_map.mp member
    have entry := expanded_code_entry _ _ _ expanded
    right
    apply image_code
    exact List.mem_cons_of_mem _ (List.mem_append_left _ (List.mem_flatMap.mpr ⟨_, entry, listed⟩))
  · rename_i whole
    split at member
    · rename_i code shifted
      obtain ⟨run, listed, held, rfl⟩ := shifted_code_run _ _ _ shifted
      right
      rw [List.mem_singleton.mp member]
      apply image_code
      refine List.mem_cons_of_mem _ (List.mem_append_right _ ?_)
      exact List.mem_flatMap.mpr ⟨run, listed, List.mem_map.mpr ⟨_, held, rfl⟩⟩
    · rename_i unnamed
      refine .inl ⟨List.mem_singleton.mp member, ?_⟩
      simp only [CaseMap.char, whole, unnamed]

/-- An image is made of characters that stay as they are. -/
theorem char_of_image (map : CaseMap) (apart : bits map.sources &&& bits map.images = 0)
    (c image : Char) (member : image ∈ map.char c) : map.char image = [image] := by
  rcases mem_char_cases map member with ⟨rfl, stays⟩ | listed
  · exact stays
  · apply char_of_not_source
    exact disjoint_of_bits _ _ apart _ listed

theorem case_map_idempotent (map : CaseMap) (apart : bits map.sources &&& bits map.images = 0)
    (text : String) : map.text (map.text text) = map.text text := by
  have image : ∀ c, (map.char c).flatMap map.char = map.char c := by
    intro c
    calc
      (map.char c).flatMap map.char = ((map.char c).map map.char).flatten :=
        List.flatMap_def
      _ = ((map.char c).map fun letter => [letter]).flatten := by
        congr 1
        exact List.map_congr_left fun letter member => char_of_image map apart c letter member
      _ = map.char c := by
        rw [← List.flatMap_def, List.flatMap_singleton']
  simp only [CaseMap.text, String.toList_ofList, List.flatMap_assoc, image]

theorem upper_tables_apart : bits upperMap.sources &&& bits upperMap.images = 0 := by
  decide +kernel

@[simp]
theorem upper_upper (text : String) : upper (upper text) = upper text :=
  case_map_idempotent upperMap upper_tables_apart text

end RpgSymbols.Text
