import Sluice.Gateway.Notice
import Sluice.Gateway.Surroundings

/-!
# Admission

A batch is admitted under a permit for all its events.  If the permit used the allowance up, its
owner is told.  The events that the permit covers are forwarded, and what was granted but not
acknowledged is released.  Telling the owner and releasing are done as well as they can be: their
failures change nothing for the publisher.
-/

namespace Sluice.Gateway

/-- What the allowance of publishers is counted in. -/
def subject : Subject := .publishEvents

/-- The number of events that a permit is asked for. -/
def requestedCount (events : List Event) : UInt32 :=
  UInt32.ofNat (min events.length (UInt32.size - 1))

/-- A permit for all the events of a batch. -/
def requestPermit (who : Principal) (events : List Event) : Action (Except Fault Permit) := do
  return (← allocate who subject (requestedCount events)).mapError Fault.asQuota

/-- Tells the owner of a permit that used the allowance up, if there is one to tell. -/
def notifyOwner (who : Principal) (permit : Permit) (source : String) : Action Unit :=
  if permit.justExhausted && Notice.isDue permit.owner source then do
    let id ← freshId
    match ← forward .internal [Notice.make id source who.groupId permit.owner] with
    | .ok _ => count .noticesSent 1
    | .error _ => count .noticeErrors 1
  else pure ()

/-- Releases units that were granted and not used. -/
def releaseUnused (who : Principal) (permit : Permit) (units : UInt32) : Action Unit :=
  if units = 0 then pure ()
  else do
    let _ ← release who.groupId permit.owner subject units

/-- Forwards the events that a permit covers: how many of them the sink acknowledged. -/
def forwardCovered (who : Principal) (permit : Permit) (events : List Event) :
    Action (Except Fault UInt32) := do
  match ← forward .metered events with
  | .error f =>
    releaseUnused who permit permit.granted
    return .error f.asForwarding
  | .ok acknowledged =>
    let acknowledged := min acknowledged (UInt32.ofNat events.length)
    releaseUnused who permit (permit.granted - min permit.granted acknowledged)
    return .ok acknowledged

/-- Forwards the events of a batch that its permit covers, and counts the others as dropped. -/
def forwardGranted (who : Principal) (permit : Permit) (events : List Event) :
    Action (Except Fault UInt32) := do
  if permit.granted.toNat < events.length then
    count .eventsDropped (UInt64.ofNat (events.length - permit.granted.toNat))
  forwardCovered who permit (events.take permit.granted.toNat)

/-- Admits a batch: how many of its events the sink acknowledged. -/
def admitBatch (who : Principal) : List Event → Action (Except Fault UInt32)
  | [] => pure (.ok 0)
  | first :: rest => do
    let events := first :: rest
    match ← requestPermit who events with
    | .error f => return .error f
    | .ok permit =>
      notifyOwner who permit first.source
      if permit.granted = 0 then
        count .quotaExhausted 1
        count .eventsDropped (requestedCount events).toUInt64
        return .error (.quotaExhausted permit.owner)
      else forwardGranted who permit events

end Sluice.Gateway
