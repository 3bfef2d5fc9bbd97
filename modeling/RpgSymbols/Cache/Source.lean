import RpgSymbols.Include.Address

/-!
Content sources serve the text of members and stream files. A source may fail in any way; the
caches only ever show the wording of a failure.
-/

namespace RpgSymbols

inductive Request where
  | member (address : MemberAddress)
  | stream (path : String)
  deriving DecidableEq, Repr

inductive SourceError where
  | unavailable (message : String)
  | interrupted (message : String)
  | linkLoop (path : String)
  deriving DecidableEq, Repr

structure ContentSource where
  serve : Request → Except SourceError String

def Resolved.request (resolved : Resolved) : Except Unresolvable Request :=
  match resolved.kind, resolved.member with
  | .streamFile, _ => .ok (.stream resolved.canonicalPath)
  | .member, some address => .ok (.member address)
  | .member, none => .error (.missingMember resolved.canonicalPath)

end RpgSymbols
