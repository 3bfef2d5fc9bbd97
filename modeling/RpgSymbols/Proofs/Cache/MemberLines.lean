import RpgSymbols.Proofs.Cache.CacheRun

/-!
Members in the content cache. A member's path is made of the parts of its address, so two members that
share a path are one. That is why a cache of paths can stand for a cache of members: as long as only
members fetch and save, each of them has the lines that it would have in a cache of its own, however it
is spelled and whatever happens to the others.
-/

namespace RpgSymbols

open Text SlashPath

def addressed? (home : String) (document : Document) (target : String) : Option MemberAddress :=
  match resolve home document target with
  | .error _ => none
  | .ok resolved => resolved.member

def ContentSource.memberLines? (source : ContentSource) (address : MemberAddress) :
    Option (List String) :=
  (source.serve (.member address)).toOption.map lines

section Address

variable {home otherHome target otherTarget : String} {document otherDocument : Document}
  {resolved other : Resolved} {address otherAddress : MemberAddress}

theorem address_of_scheme (scheme : document.scheme = Addressing.member.name)
    (resolves : resolve home document target = .ok resolved) :
    ∃ address, resolved.member = some address := by
  obtain ⟨addressing, stream | ⟨_, _, member⟩⟩ := resolve_cases resolves
  · have name : Addressing.ofName? Addressing.member.name = some .member := by decide
    rw [scheme, name, stream] at addressing
    cases addressing
  · obtain ⟨address, _, rfl⟩ := resolve_member_address member
    exact ⟨address, rfl⟩

theorem resolve_member_of_address (resolves : resolve home document target = .ok resolved)
    (addresses : resolved.member = some address) :
    ∃ written, resolveMember document.path written = .ok resolved := by
  obtain ⟨_, stream | ⟨_, member⟩⟩ := resolve_cases resolves
  · rw [stream] at addresses
    cases addresses
  · exact member

/-- An addressed member is known by the parts of its address. -/
theorem resolved_of_address (resolves : resolve home document target = .ok resolved)
    (addresses : resolved.member = some address) :
    resolved = ⟨memberPath address.group address.library address.file address.member, .member,
      some address⟩ := by
  obtain ⟨written, member⟩ := resolve_member_of_address resolves addresses
  obtain ⟨own, _, rfl⟩ := resolve_member_address member
  cases addresses
  have some : address.parts ≠ [] := List.append_ne_nil_of_right_ne_nil _ (List.cons_ne_nil _ _)
  rw [join_empty_cons some]
  rfl

/-- Members share a path exactly if they are the same member. -/
theorem same_path_iff (resolves : resolve home document target = .ok resolved)
    (addresses : resolved.member = some address)
    (otherResolves : resolve otherHome otherDocument otherTarget = .ok other)
    (otherAddresses : other.member = some otherAddress) :
    resolved.canonicalPath = other.canonicalPath ↔ address = otherAddress := by
  constructor
  · intro same
    obtain ⟨written, member⟩ := resolve_member_of_address resolves addresses
    obtain ⟨otherWritten, otherMember⟩ := resolve_member_of_address otherResolves otherAddresses
    rw [member_of_canonical_path member otherMember same, otherAddresses] at addresses
    exact (Option.some.inj addresses).symm
  · rintro rfl
    rw [resolved_of_address resolves addresses, resolved_of_address otherResolves otherAddresses]

theorem addressed_of_resolve (resolves : resolve home document target = .ok resolved) :
    addressed? home document target = resolved.member := by
  rw [addressed?, resolves]

theorem not_addressed {reason : Unresolvable}
    (unresolved : resolve home document target = .error reason) :
    addressed? home document target ≠ some address := by
  rw [addressed?, unresolved]
  intro found
  cases found

/-- A member addresses another one exactly if its target has the path of that one. -/
theorem addressed_iff (scheme : document.scheme = Addressing.member.name)
    (resolves : resolve home document target = .ok resolved)
    (otherResolves : resolve otherHome otherDocument otherTarget = .ok other)
    (otherAddresses : other.member = some otherAddress) :
    addressed? home document target = some otherAddress ↔
      resolved.canonicalPath = other.canonicalPath := by
  obtain ⟨address, addresses⟩ := address_of_scheme scheme resolves
  rw [same_path_iff resolves addresses otherResolves otherAddresses, addressed_of_resolve resolves,
    addresses, Option.some.injEq]

theorem served_member (source : ContentSource)
    (resolves : resolve home document target = .ok resolved)
    (addresses : resolved.member = some address) :
    source.served? resolved = source.memberLines? address := by
  rw [resolved_of_address resolves addresses]
  unfold ContentSource.served? ContentSource.memberLines? Resolved.request
  dsimp only
  cases source.serve (.member address) <;> rfl

end Address

namespace ContentCache

/-- Whoever fetches or saves in this step is a member. -/
def Step.ByMember (step : Step) : Prop :=
  match step.action with
  | .fetch document _ => document.scheme = Addressing.member.name
  | .refresh document _ => document.scheme = Addressing.member.name
  | .put _ _ => True
  | .get _ => True

/-- The lines of one member after a step, if it had the given lines before. A step that addresses another
member does not count. A saved document addresses itself by its own name, and lines that are put
somewhere are those of the member that is known by the path. -/
def Step.linesOf (home : String) (address : MemberAddress) (held : Option (List String))
    (step : Step) : Option (List String) :=
  match step.action with
  | .fetch document target =>
      if addressed? home document target = some address then
        held.or (step.source.memberLines? address)
      else held
  | .refresh document text =>
      if addressed? home document (lastPart document.path) = some address then
        held.map fun _ => lines text
      else held
  | .put path found =>
      if path = memberPath address.group address.library address.file address.member then some found
      else held
  | .get _ => held

/-- The lines of a member after the steps, in a cache that has no other member. -/
def memberLines (home : String) (address : MemberAddress) (steps : List Step) :
    Option (List String) :=
  steps.foldl (Step.linesOf home address) none

/-- Saving a file replaces the lines that are held for it, and changes nothing else. -/
theorem get_refresh {cache : ContentCache} {document : Document} {path : String}
    (resolves : canonicalPath cache.home document = .ok path) (text other : String) :
    (cache.refresh document text).2.1.get? other =
      if path = other then (cache.get? path).map fun _ => lines text else cache.get? other := by
  cases found : cache.get? path with
  | some old =>
      have held : cache.holds path = true := by
        rw [holds, found]
        rfl
      rw [refresh_tracked resolves held, get_put, Option.map_some]
  | none =>
      have unheld : ∀ own, canonicalPath cache.home document = .ok own →
          cache.holds own = false := by
        intro own finds
        rw [resolves] at finds
        cases finds
        rw [holds, found]
        rfl
      rw [refresh_untracked unheld]
      by_cases here : path = other
      · rw [if_pos here, ← here, found]
        rfl
      · rw [if_neg here]

section Run

variable {target : String} {document : Document} {resolved : Resolved} {address : MemberAddress}

/-- A step does to the lines of a member what it would do if there were no other member. -/
theorem get_perform {cache : ContentCache} {step : Step} (member : step.ByMember)
    (resolves : cache.resolve document target = .ok resolved)
    (addresses : resolved.member = some address) :
    (cache.perform step).cache.get? resolved.canonicalPath =
      step.linesOf cache.home address (cache.get? resolved.canonicalPath) := by
  obtain ⟨source, action⟩ := step
  cases action with
  | get path => rfl
  | put path found =>
      simp only [perform, Step.linesOf, get_put, resolved_of_address resolves addresses]
  | fetch asking written =>
      simp only [perform, Step.linesOf]
      cases finds : cache.resolve asking written with
      | error reason => rw [fetch_unresolved finds, if_neg (not_addressed finds)]
      | ok found =>
          have same := addressed_iff member finds resolves addresses
          rw [get_fetch source finds]
          by_cases here : found.canonicalPath = resolved.canonicalPath
          · have asks := (addressed_of_resolve finds).symm.trans (same.mpr here)
            rw [if_pos here, if_pos (same.mpr here), available?, here,
              served_member source finds asks]
          · rw [if_neg here, if_neg (mt same.mp here)]
  | refresh saved text =>
      simp only [perform, Step.linesOf]
      -- A saved member is resolved like a target that is written in it, so the same lemma applies.
      have scheme : saved.scheme = Addressing.member.name := member
      have own : canonicalPath cache.home saved =
          (cache.resolve saved (lastPart saved.path)).map Resolved.canonicalPath := by
        rw [canonicalPath, if_pos scheme, ContentCache.resolve]
      cases finds : cache.resolve saved (lastPart saved.path) with
      | error reason =>
          have unheld : ∀ path, canonicalPath cache.home saved = .ok path →
              cache.holds path = false := by
            intro path known
            rw [own, finds] at known
            cases known
          rw [refresh_untracked unheld, if_neg (not_addressed finds)]
      | ok found =>
          have same := addressed_iff member finds resolves addresses
          rw [finds] at own
          rw [get_refresh own]
          by_cases here : found.canonicalPath = resolved.canonicalPath
          · rw [if_pos here, if_pos (same.mpr here), here]
          · rw [if_neg here, if_neg (mt same.mp here)]

/-- So do all steps of a run. -/
theorem get_after_steps {cache : ContentCache} {steps : List Step}
    (members : ∀ step ∈ steps, step.ByMember)
    (resolves : cache.resolve document target = .ok resolved)
    (addresses : resolved.member = some address) :
    (steps.foldl (fun cache step => (cache.perform step).cache) cache).get? resolved.canonicalPath =
      steps.foldl (Step.linesOf cache.home address) (cache.get? resolved.canonicalPath) := by
  induction steps generalizing cache with
  | nil => rfl
  | cons step rest induction =>
      have home := home_perform cache step
      have moved : (cache.perform step).cache.resolve document target = .ok resolved := by
        rw [ContentCache.resolve, home]
        exact resolves
      have others : ∀ other ∈ rest, other.ByMember :=
        fun other listed => members other (List.mem_cons_of_mem _ listed)
      have later := induction others moved
      rw [home, get_perform (members step List.mem_cons_self) resolves addresses] at later
      rw [List.foldl_cons, List.foldl_cons, later]

end Run

end ContentCache

/-- Targets that are written in members have the same path exactly if they address the same member. So
in a run in which only members fetch and save, whoever addresses a member finds the lines at its path,
and is answered the lines, that this member would have in a cache of its own. -/
theorem members_have_own_lines :
    (∀ (firstHome secondHome : String) (first second : Document) (firstTarget secondTarget : String)
        (resolved other : Resolved),
      first.scheme = Addressing.member.name → second.scheme = Addressing.member.name →
      resolve firstHome first firstTarget = .ok resolved →
      resolve secondHome second secondTarget = .ok other →
      resolved.member.isSome = true ∧
        (resolved.canonicalPath = other.canonicalPath ↔ resolved.member = other.member)) ∧
    ∀ (home : String) (steps : List ContentCache.Step), (∀ step ∈ steps, step.ByMember) →
      ∀ (count : Nat) (source : ContentSource) (document : Document) (target : String)
        (address : MemberAddress), addressed? home document target = some address →
        let cache := ContentCache.before home steps count
        let own := ContentCache.memberLines home address (steps.take count)
        cache.get? (memberPath address.group address.library address.file address.member) = own ∧
          (cache.fetch source document target).lines =
            (own.or (source.memberLines? address)).getD [] := by
  constructor
  · intro firstHome secondHome first second firstTarget secondTarget resolved other scheme
      otherScheme resolves otherResolves
    obtain ⟨address, addresses⟩ := address_of_scheme scheme resolves
    obtain ⟨otherAddress, otherAddresses⟩ := address_of_scheme otherScheme otherResolves
    have same := same_path_iff resolves addresses otherResolves otherAddresses
    rw [addresses, otherAddresses, Option.some.injEq]
    exact ⟨rfl, same⟩
  · intro home steps members count source document target address asked cache own
    cases resolves : resolve home document target with
    | error reason => exact absurd asked (not_addressed resolves)
    | ok resolved =>
        have addresses := (addressed_of_resolve resolves).symm.trans asked
        have finds : cache.resolve document target = .ok resolved := by
          rw [ContentCache.resolve, ContentCache.home_before, resolves]
        have held : cache.get? resolved.canonicalPath = own :=
          ContentCache.get_after_steps
            (fun step listed => members step (List.mem_of_mem_take listed)) resolves addresses
        constructor
        · rw [← held, resolved_of_address resolves addresses]
        · rw [ContentCache.lines_of_fetch source finds, ContentCache.available?, held,
            served_member source resolves addresses]

/-- Two members that differ in their storage groups alone are fetched, one of them by its whole name,
and the other one is saved when the source has lost them. -/
theorem namesakes_have_own_lines :
    let near : Document := ⟨"member", "/lib/src/pgm.rpgle"⟩
    let far : Document := ⟨"member", "/asp/lib/src/pgm.rpgle"⟩
    let one : Resolved := ⟨"/LIB/SRC/STRASSE", .member, some ⟨none, "LIB", "SRC", "STRASSE"⟩⟩
    let two : Resolved :=
      ⟨"/ASP/LIB/SRC/STRASSE", .member, some ⟨some "ASP", "LIB", "SRC", "STRASSE"⟩⟩
    let source : ContentSource := .ofFiles
      [(⟨none, "LIB", "SRC", "STRASSE"⟩, "one"), (⟨some "ASP", "LIB", "SRC", "STRASSE"⟩, "two")] []
    let lost : ContentSource := .ofFiles [] []
    let steps : List ContentCache.Step := [⟨source, .fetch near "Lib/Src,Straße.rpgle"⟩,
      ⟨source, .fetch far "straße"⟩, ⟨lost, .refresh ⟨"member", "/Asp/Lib/Src/Strasse.inc"⟩ "three"⟩]
    let cache := ContentCache.before "/" steps 3
    (resolve "/" near "Lib/Src,Straße.rpgle" = .ok one ∧ resolve "/" far "strasse" = .ok two ∧
      (one.canonicalPath = two.canonicalPath ↔ one.member = two.member)) ∧
    (cache.get? one.canonicalPath = some ["one"] ∧
      (cache.fetch lost near "src,STRASSE").lines = ["one"]) ∧
    (cache.get? two.canonicalPath = some ["three"] ∧
      (cache.fetch lost far "strasse.rpgle").lines = ["three"]) := by
  intro near far one two source lost steps cache
  have members : ∀ step ∈ steps, step.ByMember := by
    simp [steps, near, far, ContentCache.Step.ByMember, Addressing.name]
  have nearResolves : resolve "/" near "Lib/Src,Straße.rpgle" = .ok one := by decide +kernel
  have farResolves : resolve "/" far "strasse" = .ok two := by decide +kernel
  have nearAsked : addressed? "/" near "src,STRASSE" = some ⟨none, "LIB", "SRC", "STRASSE"⟩ := by
    decide +kernel
  have farAsked :
      addressed? "/" far "strasse.rpgle" = some ⟨some "ASP", "LIB", "SRC", "STRASSE"⟩ := by
    decide +kernel
  have nearOwn : ContentCache.memberLines "/" ⟨none, "LIB", "SRC", "STRASSE"⟩ (steps.take 3) =
      some ["one"] := by
    decide +kernel
  have farOwn : ContentCache.memberLines "/" ⟨some "ASP", "LIB", "SRC", "STRASSE"⟩ (steps.take 3) =
      some ["three"] := by
    decide +kernel
  obtain ⟨paths, runs⟩ := members_have_own_lines
  have same := (paths "/" "/" near far _ _ one two rfl rfl nearResolves farResolves).2
  have nearRun := runs "/" steps members 3 lost near _ _ nearAsked
  have farRun := runs "/" steps members 3 lost far _ _ farAsked
  dsimp only at nearRun farRun
  rw [nearOwn] at nearRun
  rw [farOwn] at farRun
  exact ⟨⟨nearResolves, farResolves, same⟩, nearRun, farRun⟩

end RpgSymbols
