import Sluice.Event.Wire
import Sluice.Fault
import Sluice.Text.Blank

/-!
# Who publishes, and what they may publish

A `Principal` is a group and a user, both known to be right before they come here; the user is empty
when the group as a whole publishes.  A `Permit` is the answer to a request for allowance: how many
events may be published now, whom they are charged to, and whether this used the allowance up.
-/

namespace Sluice

open Json (Reader Value Field Record)

/-! ## Principals -/

/-- Who publishes. -/
structure Principal where
  groupId : String
  userId : String
deriving DecidableEq, Repr

/-- The most bytes of a group or a user. -/
def principalLimit : Nat := 256

/-- The principal of the values of two headers.  White space at the ends does not count; the group
must be given. -/
def Principal.ofHeaders (group user : Option String) : Except Fault Principal :=
  let groupId := Text.trim (group.getD "")
  let userId := Text.trim (user.getD "")
  if groupId.isEmpty then .error (.auth "group id is required")
  else if principalLimit < groupId.utf8ByteSize ∨ principalLimit < userId.utf8ByteSize then
    .error (.invalidFormat ("principal id exceeds " ++ toString principalLimit ++ " bytes"))
  else .ok ⟨groupId, userId⟩

def Principal.toJson (p : Principal) : Value :=
  .object [("groupId", .string p.groupId), ("userId", .string p.userId)]

/-- The fields of a principal. -/
def Principal.record : Record Principal where
  title := "struct Principal"
  blank := ⟨"", ""⟩
  fields :=
    [.needed "groupId" Reader.string fun v p => { p with groupId := v },
      .needed "userId" Reader.string fun v p => { p with userId := v }]

/-! ## Subjects -/

/-- What an allowance is counted in. -/
inductive Subject where
  | undefined
  | interests
  | publishEvents
deriving DecidableEq, Repr

/-- The name of a subject. -/
def Subject.name : Subject → String
  | .undefined => "undefined"
  | .interests => "interests"
  | .publishEvents => "publish_events"

def Subject.toJson (s : Subject) : Value := .string s.name

def Subject.reader : Reader Subject :=
  .oneOf [.undefined, .interests, .publishEvents] Subject.name

/-! ## Permits -/

/-- An allowance given. -/
structure Permit where
  /-- How many events may be published now. -/
  granted : UInt32
  /-- Whom they are charged to; empty when the group is charged. -/
  owner : String
  /-- This request used the allowance up. -/
  justExhausted : Bool
deriving DecidableEq, Repr

namespace Permit

/-- The permit for nothing. -/
def none : Permit := ⟨0, "", false⟩

/-- The permit of a request that used the allowance up. -/
def exhausted (p : Permit) : Permit := { p with justExhausted := true }

/-- The group as a whole is charged. -/
def isGroupLevel (p : Permit) : Bool := p.owner.isEmpty

def toJson (p : Permit) : Value :=
  .object [("grantedCount", .whole p.granted.toNat), ("ownerId", .string p.owner),
    ("justExhausted", .boolean p.justExhausted)]

/-- The fields of a permit. -/
def record : Record Permit where
  title := "struct Permit"
  blank := .none
  fields :=
    [.defaulted "grantedCount" Reader.uint32 fun v p => { p with granted := v },
      .defaulted "ownerId" Reader.string fun v p => { p with owner := v },
      .defaulted "justExhausted" Reader.boolean fun v p => { p with justExhausted := v }]

end Permit

end Sluice
