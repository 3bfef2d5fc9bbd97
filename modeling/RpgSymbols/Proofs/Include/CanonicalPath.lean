import RpgSymbols.Include.Address
import RpgSymbols.Proofs.Text.Parts

/-!
What a canonical path says. The path of a member is made of parts without slashes, so it can be
taken apart again, and it determines the address of the member. The path of a stream file is its
address. So two targets that get the same path are fetched in the same way, as long as their
documents have the same scheme.
-/

namespace RpgSymbols

open Text

theorem slash_free_last {parts : List String} (free : ∀ part ∈ parts, SlashFree part) :
    SlashFree (lastOrEmpty parts) := by
  unfold lastOrEmpty
  cases last : parts.getLast? with
  | none =>
      intro member
      cases member
  | some part => exact free part (List.mem_of_getLast? last)

/-- What a document lends to its members has no slash. -/
theorem slash_free_inherited (path : String) :
    (∀ group ∈ (inherited path).1, SlashFree group) ∧
      (∀ library ∈ (inherited path).2.1, SlashFree library) ∧ SlashFree (inherited path).2.2 := by
  have free : ∀ part ∈ split '/' path, SlashFree part := fun part => slash_free_part
  unfold inherited
  split
  · rename_i empty library file member parts
    rw [parts] at free
    simp only [List.mem_cons, forall_eq_or_imp] at free
    refine ⟨by simp, ?_, free.2.2.1⟩
    rintro _ ⟨rfl⟩
    exact free.2.1
  · rename_i empty group library file member parts
    rw [parts] at free
    simp only [List.mem_cons, forall_eq_or_imp] at free
    refine ⟨?_, ?_, free.2.2.2.1⟩
    · rintro _ ⟨rfl⟩
      exact free.2.1
    · rintro _ ⟨rfl⟩
      exact free.2.2.1
  · refine ⟨by simp, by simp, ?_⟩
    decide +kernel

namespace MemberAddress

def parts (address : MemberAddress) : List String :=
  address.group.toList ++ [address.library, address.file, address.member]

def inUpperCase (address : MemberAddress) : MemberAddress :=
  ⟨address.group.map upper, upper address.library, upper address.file, upper address.member⟩

theorem parts_injective {first second : MemberAddress} (same : first.parts = second.parts) :
    first = second := by
  obtain ⟨firstGroup, firstLibrary, firstFile, firstMember⟩ := first
  obtain ⟨secondGroup, secondLibrary, secondFile, secondMember⟩ := second
  cases firstGroup <;> cases secondGroup <;> simp_all [parts]

theorem parts_in_upper_case (address : MemberAddress) :
    address.inUpperCase.parts = address.parts.map upper := by
  obtain ⟨group, library, file, member⟩ := address
  cases group <;> rfl

end MemberAddress

/-- The address that a target spells: what it leaves out is lent by the path of the document. -/
def spelledMember (path target : String) : MemberAddress :=
  let libraryParts := split '/' target
  let memberParts := split ',' (lastOrEmpty libraryParts)
  let library :=
    match libraryParts with
    | [written, _] => some written
    | _ => (inherited path).2.1
  let named :=
    match memberParts with
    | [file, member] => (file, member)
    | parts => ((inherited path).2.2, lastOrEmpty parts)
  ⟨(inherited path).1.filter fun name => !name.isEmpty, library.getD "", named.1,
    withoutExtension named.2⟩

attribute [local irreducible] withoutExtension in
theorem resolve_member_spelled (path target : String) :
    resolveMember path target =
      let spelled := spelledMember path target
      if spelled.library.isEmpty || spelled.file.isEmpty || spelled.member.isEmpty then
        .error (.incompleteMember target path)
      else .ok ⟨upper ("/" ++ join "/" spelled.parts), .member, some spelled.inUpperCase⟩ := by
  unfold resolveMember spelledMember
  -- The two sides differ in names alone, but the texts must not be looked into.
  rcases inherited path with ⟨group, library, file⟩
  generalize split '/' target = libraryParts
  generalize split ',' (lastOrEmpty libraryParts) = memberParts
  rfl

theorem slash_free_spelled (path target : String) :
    ∀ part ∈ (spelledMember path target).parts, SlashFree part := by
  obtain ⟨ownGroup, ownLibrary, ownFile⟩ := slash_free_inherited path
  have libraryParts : ∀ part ∈ split '/' target, SlashFree part := fun part => slash_free_part
  have memberParts : ∀ part ∈ split ',' (lastOrEmpty (split '/' target)), SlashFree part :=
    fun part => slash_free_of_part (slash_free_last libraryParts)
  have empty : SlashFree "" := by decide
  have group : ∀ group ∈ (spelledMember path target).group, SlashFree group := by
    intro group chosen
    simp only [spelledMember, Option.mem_def, Option.filter_eq_some_iff] at chosen
    exact ownGroup group chosen.1
  have library : SlashFree (spelledMember path target).library := by
    simp only [spelledMember]
    split
    · rename_i written _ same
      exact libraryParts written (same ▸ List.mem_cons_self)
    · cases lent : (inherited path).2.1 with
      | none => exact empty
      | some library => exact ownLibrary library lent
  have named : SlashFree (spelledMember path target).file ∧
      SlashFree (spelledMember path target).member := by
    simp only [spelledMember]
    split
    · rename_i file member same
      rw [same] at memberParts
      simp only [List.mem_cons, forall_eq_or_imp] at memberParts
      exact ⟨memberParts.1, slash_free_without_extension memberParts.2.1⟩
    · dsimp only
      exact ⟨ownFile, slash_free_without_extension (slash_free_last memberParts)⟩
  intro part listed
  simp only [MemberAddress.parts, List.mem_append, Option.mem_toList, List.mem_cons,
    List.not_mem_nil, or_false] at listed
  rcases listed with chosen | same | same | same
  · exact group part chosen
  · rw [same]
    exact library
  · rw [same]
    exact named.1
  · rw [same]
    exact named.2

/-- A resolved member is known by the parts of its address, and none of them has a slash. -/
theorem resolve_member_address {path target : String} {resolved : Resolved}
    (resolves : resolveMember path target = .ok resolved) :
    ∃ address : MemberAddress, (∀ part ∈ address.parts, SlashFree part) ∧
      resolved = ⟨join "/" ("" :: address.parts), .member, some address⟩ := by
  rw [resolve_member_spelled] at resolves
  dsimp only at resolves
  split at resolves
  · cases resolves
  · rw [← Except.ok.inj resolves]
    refine ⟨(spelledMember path target).inUpperCase, ?_, ?_⟩
    · rw [MemberAddress.parts_in_upper_case]
      intro part listed
      obtain ⟨written, spelled, rfl⟩ := List.mem_map.mp listed
      exact slash_free_upper (slash_free_spelled path target written spelled)
    · have some : (spelledMember path target).inUpperCase.parts ≠ [] :=
        List.append_ne_nil_of_right_ne_nil _ (List.cons_ne_nil _ _)
      rw [upper_append, upper_slash, upper_join, ← MemberAddress.parts_in_upper_case,
        join_empty_cons some]

/-- The path of a member determines its address. -/
theorem member_of_canonical_path {firstPath firstTarget secondPath secondTarget : String}
    {first second : Resolved} (left : resolveMember firstPath firstTarget = .ok first)
    (right : resolveMember secondPath secondTarget = .ok second)
    (same : first.canonicalPath = second.canonicalPath) : first = second := by
  obtain ⟨firstAddress, firstFree, rfl⟩ := resolve_member_address left
  obtain ⟨secondAddress, secondFree, rfl⟩ := resolve_member_address right
  have free : ∀ {address : MemberAddress}, (∀ part ∈ address.parts, SlashFree part) →
      ∀ part ∈ "" :: address.parts, SlashFree part := by
    intro address parts part listed
    rcases List.mem_cons.mp listed with rfl | behind
    · decide
    · exact parts part behind
  have cut := congrArg (split '/') same
  rw [split_join (List.cons_ne_nil _ _) (free firstFree),
    split_join (List.cons_ne_nil _ _) (free secondFree)] at cut
  rw [MemberAddress.parts_injective (List.cons.inj cut).2]

theorem resolve_stream_address {home target : String} {resolved : Resolved}
    (resolves : resolveStream home target = .ok resolved) :
    resolved = ⟨resolved.canonicalPath, .streamFile, none⟩ := by
  unfold resolveStream at resolves
  dsimp only at resolves
  split at resolves
  · cases resolves
  · rw [← Except.ok.inj resolves]

/-- The scheme of a document decides how its targets are addressed. -/
theorem resolve_cases {home : String} {document : Document} {target : String}
    {resolved : Resolved} (resolves : resolve home document target = .ok resolved) :
    Addressing.ofName? document.scheme = some resolved.kind ∧
      (resolved = ⟨resolved.canonicalPath, .streamFile, none⟩ ∨
        resolved.kind = .member ∧ ∃ written, resolveMember document.path written = .ok resolved) := by
  unfold resolve at resolves
  generalize trim target = written at resolves
  dsimp only at resolves
  split at resolves
  · cases resolves
  split at resolves
  · rename_i scheme
    have address := resolve_stream_address resolves
    rw [scheme, address]
    exact ⟨rfl, .inl rfl⟩
  · rename_i scheme
    obtain ⟨address, _, rfl⟩ := resolve_member_address resolves
    exact ⟨scheme, .inr ⟨rfl, written, resolves⟩⟩
  · cases resolves

/-- A path that two documents address in the same way is the same address to both. -/
theorem resolved_of_kind {home : String} {firstDocument secondDocument : Document}
    {firstTarget secondTarget : String} {first second : Resolved}
    (left : resolve home firstDocument firstTarget = .ok first)
    (right : resolve home secondDocument secondTarget = .ok second)
    (kind : first.kind = second.kind) (same : first.canonicalPath = second.canonicalPath) :
    first = second := by
  rcases (resolve_cases left).2 with leftStream | ⟨leftMember, _, leftResolves⟩
  · rcases (resolve_cases right).2 with rightStream | ⟨rightMember, _, _⟩
    · rw [leftStream, rightStream, same]
    · rw [leftStream, rightMember] at kind
      cases kind
  · rcases (resolve_cases right).2 with rightStream | ⟨_, _, rightResolves⟩
    · rw [leftMember, rightStream] at kind
      cases kind
    · exact member_of_canonical_path leftResolves rightResolves same

theorem kind_of_scheme {home : String} {firstDocument secondDocument : Document}
    {firstTarget secondTarget : String} {first second : Resolved}
    (left : resolve home firstDocument firstTarget = .ok first)
    (right : resolve home secondDocument secondTarget = .ok second)
    (scheme : firstDocument.scheme = secondDocument.scheme) : first.kind = second.kind := by
  have kind := (resolve_cases left).1
  rw [scheme, (resolve_cases right).1] at kind
  exact (Option.some.inj kind).symm

/-- Two targets of one document that get the same canonical path get the same address. -/
theorem resolved_of_canonical_path {home : String} {document : Document}
    {firstTarget secondTarget : String} {first second : Resolved}
    (left : resolve home document firstTarget = .ok first)
    (right : resolve home document secondTarget = .ok second)
    (same : first.canonicalPath = second.canonicalPath) : first = second :=
  resolved_of_kind left right (kind_of_scheme left right rfl) same

end RpgSymbols
