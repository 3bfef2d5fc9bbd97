import RpgSymbols.Proofs.Files.Lexical

/-!
What full resolution reads of a tree, and what it makes of a path. It asks for nothing but links, so
trees with the same links unroll a path alike, whatever directories are added; and it adds to the names
of the path only parts of link targets, so no name of a resolved path holds a slash.
-/

namespace RpgSymbols

open Text SlashPath

namespace FileTree

/-! Where resolution ends. -/

/-- Where the resolution of an absolute path ends: where the path settles, or at a link that leads into
itself and the names behind it. -/
def endOfResolution (tree : FileTree) (names : List String) : Place :=
  tree.unrolledPlace [] ⟨true, names⟩

section Ending

variable {tree : FileTree} {names : List String} {place : Place}

theorem resolve_error_iff {error : ResolveError} : tree.resolve names = .error error ↔
    tree.meetsNull [] ⟨true, names⟩ = true ∧ error = .embeddedNull ∨
      tree.meetsNull [] ⟨true, names⟩ = false ∧
        tree.locate (tree.endOfResolution names) = .error .tooManyLinks ∧
        error = .linkLoop (tree.endOfResolution names).text := by
  rw [resolve, resolveFrom, ← endOfResolution]
  cases tree.meetsNull [] ⟨true, names⟩ with
  | true => simp [eq_comm]
  | false =>
      dsimp only
      rw [if_neg Bool.false_ne_true]
      split
      · rename_i fails
        simp [fails, eq_comm]
      · rename_i walkable
        have walks : tree.locate (tree.endOfResolution names) ≠ .error .tooManyLinks := walkable
        simp [walks]

theorem resolve_ok_iff : tree.resolve names = .ok place ↔
    tree.meetsNull [] ⟨true, names⟩ = false ∧ tree.endOfResolution names = place ∧
      tree.locate place ≠ .error .tooManyLinks := by
  rw [resolve, resolveFrom, ← endOfResolution]
  cases tree.meetsNull [] ⟨true, names⟩ with
  | true => simp
  | false =>
      dsimp only
      rw [if_neg Bool.false_ne_true]
      split
      · rename_i fails
        simp only [reduceCtorEq, true_and, false_iff]
        rintro ⟨rfl, walks⟩
        exact walks fails
      · rename_i walkable
        simp only [Except.ok.injEq, true_and, iff_self_and]
        rintro rfl
        exact walkable

theorem end_of_settled {links : Nat} (settles : tree.Settles links [] names place) :
    tree.endOfResolution names = place :=
  unrolled_place_settled [] settles

end Ending

/-! Trees with the same links. -/

/-- The same links stand at the same places. -/
def LinkedAlike (one other : FileTree) : Prop :=
  ∀ place target, one.entry? place = some (.link target) ↔ other.entry? place = some (.link target)

section Alike

variable {one other : FileTree} (alike : LinkedAlike one other) (current : Place)
include alike

theorem unroll_with_alike (enter : KnownLinks → Trail → Trail → String → KnownLinks × Unrolled)
    (known : KnownLinks) (here : Trail) (names : List String) :
    one.unrollWith current enter known here names = other.unrollWith current enter known here names := by
  induction names generalizing known here with
  | nil => rfl
  | cons name rest induction =>
      rw [unrollWith, unrollWith]
      simp only [induction]
      split_ifs
      · rfl
      · rfl
      · have same := alike ((here.down name).place current)
        split
        · rename_i target linked
          rw [(same target).mp linked]
        · rename_i unlinked
          split
          · rename_i target linked
            exact absurd ((same target).mpr linked) (unlinked target)
          · rfl

theorem unroll_alike (entered : List Trail) (depth : Nat) (known : KnownLinks) (here : Trail)
    (names : List String) :
    one.unroll current entered depth known here names =
      other.unroll current entered depth known here names := by
  induction depth generalizing entered known here names with
  | zero => rw [unroll, unroll, unroll_with_alike alike]
  | succ depth induction =>
      rw [unroll, unroll, unroll_with_alike alike]
      simp only [induction]

end Alike

section Furnishing

variable {before later : FileTree} (furnished : Furnished before later)
include furnished

theorem Furnished.linked_alike : LinkedAlike before later := by
  obtain ⟨more, extended, directories⟩ := furnished.added
  intro place target
  refine ⟨entry_extended extended, ?_⟩
  intro linked
  have named : place ≠ [] := by
    rintro rfl
    cases linked
  rw [ entry?, if_neg (by simpa using named), extended, List.find?_append] at linked
  rw [ entry?, if_neg (by simpa using named)]
  cases first : before.entries.find? fun entry => entry.1 == place with
  | some old =>
      rw [first] at linked
      exact linked
  | none =>
      rw [first, Option.none_or, Option.map_eq_some_iff] at linked
      obtain ⟨added, found, held⟩ := linked
      cases (directories added (List.mem_of_find?_eq_some found)).symm.trans held

theorem Furnished.link_count : before.linkCount = later.linkCount := by
  obtain ⟨more, extended, directories⟩ := furnished.added
  rw [linkCount, linkCount, extended, List.filter_append, List.append_right_eq_self.mpr]
  rw [List.filter_eq_nil_iff]
  rintro ⟨place, entry⟩ listed
  cases directories _ listed
  simp

theorem Furnished.unrolled (current : Place) (path : Trail) :
    before.unrolled current path = later.unrolled current path := by
  simp only [FileTree.unrolled, unroll_alike furnished.linked_alike, furnished.link_count]

/-- Directories that are added do not change where a path is resolved to. -/
theorem Furnished.end_of_resolution (names : List String) :
    before.endOfResolution names = later.endOfResolution names := by
  rw [endOfResolution, endOfResolution, unrolledPlace, unrolledPlace, furnished.unrolled]

theorem Furnished.meets_null (current : Place) (path : Trail) :
    before.meetsNull current path = later.meetsNull current path := by
  simp only [meetsNull, unrolledPlace, furnished.unrolled]

end Furnishing

end FileTree

/-! Names without slashes. -/

def Trail.Free (trail : Trail) : Prop := ∀ name ∈ trail.names, SlashFree name

namespace Trail

variable {trail : Trail} (free : trail.Free)
include free

theorem Free.down {name : String} (new : SlashFree name) : (trail.down name).Free := by
  intro other listed
  rcases List.mem_append.mp listed with before | last
  · exact free other before
  · exact List.mem_singleton.mp last ▸ new

theorem Free.up : trail.up.Free := by
  unfold Trail.up
  split
  · exact fun name listed => free name (List.dropLast_subset _ listed)
  · exact free.down (by decide)

theorem Free.start (target : String) : (trail.targetStart target).Free := by
  unfold targetStart
  split
  · intro name listed
    cases listed
  · exact free

theorem Free.rejoin {rest : List String} (others : ∀ name ∈ rest, SlashFree name) :
    (trail.rejoin rest).Free := by
  unfold Trail.rejoin
  split
  · exact others
  · exact fun name listed => (List.mem_append.mp listed).elim (free name) (others name)

theorem Free.place {current : Place} (around : ∀ name ∈ current, SlashFree name) :
    ∀ name ∈ trail.place current, SlashFree name := by
  intro name listed
  have among := (normal_parts_among _ name listed).1
  split at among
  · exact free name among
  · exact (List.mem_append.mp among).elim (around name) (free name)

end Trail

namespace FileTree

variable {tree : FileTree} {current : Place}

/-- What is known after a resolution, and how far it came, holds no slash. -/
structure FreeAfter (after : KnownLinks × Unrolled) : Prop where
  known : ∀ link ∈ after.1, link.2.Free
  reached : after.2.trail.Free

theorem unroll_with_free {enter : KnownLinks → Trail → Trail → String → KnownLinks × Unrolled}
    (enters : ∀ known link directory target, (∀ other ∈ known, other.2.Free) → link.Free →
      directory.Free → FreeAfter (enter known link directory target))
    {known : KnownLinks} (frees : ∀ link ∈ known, link.2.Free) {here : Trail} (free : here.Free)
    {names : List String} (given : ∀ name ∈ names, SlashFree name) :
    FreeAfter (tree.unrollWith current enter known here names) := by
  induction names generalizing known here with
  | nil => exact ⟨frees, free⟩
  | cons name rest induction =>
      obtain ⟨first, others⟩ := List.forall_mem_cons.mp given
      have next := free.down first
      rw [unrollWith]
      split_ifs
      · exact induction frees free others
      · exact induction frees free.up others
      · dsimp only
        split
        · rename_i target linked
          split
          · rename_i trail known
            exact induction frees (frees _ (List.mem_of_find?_eq_some known)) others
          · have entered := enters known (here.down name) here target frees next free
            split
            · rename_i later trail resolves
              rw [resolves] at entered
              refine induction ?_ entered.reached others
              exact List.forall_mem_cons.mpr ⟨entered.reached, entered.known⟩
            · rename_i later trail loops
              rw [loops] at entered
              exact ⟨entered.known, entered.reached.rejoin others⟩
        · exact induction frees next others

theorem unroll_free {entered : List Trail} {depth : Nat} {known : KnownLinks}
    (frees : ∀ link ∈ known, link.2.Free) {here : Trail} (free : here.Free) {names : List String}
    (given : ∀ name ∈ names, SlashFree name) :
    FreeAfter (tree.unroll current entered depth known here names) := by
  induction depth generalizing entered known here names with
  | zero =>
      rw [unroll]
      refine unroll_with_free ?_ frees free given
      intro known link directory target kept linkFree _
      exact ⟨kept, linkFree⟩
  | succ depth induction =>
      rw [unroll]
      refine unroll_with_free ?_ frees free given
      intro known link directory target kept linkFree directoryFree
      split
      · exact ⟨kept, linkFree⟩
      · exact induction kept (directoryFree.start target) fun name listed => slash_free_part listed

theorem resolve_free {names : List String} {place : Place}
    (resolves : tree.resolve names = .ok place) (given : ∀ name ∈ names, SlashFree name) :
    ∀ name ∈ place, SlashFree name := by
  obtain ⟨_, rfl, _⟩ := resolve_ok_iff.mp resolves
  have start : Trail.Free ⟨true, []⟩ := List.forall_mem_nil SlashFree
  exact (unroll_free (by simp) start given).reached.place (List.forall_mem_nil SlashFree)

end FileTree

end RpgSymbols
