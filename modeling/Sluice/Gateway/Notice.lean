import Sluice.Event.Basic

/-!
# Limit notices

When a permit used up the allowance of its owner, the owner is told by an event.  It has the
source of the batch that did it, and is addressed to the owner in the group of the publisher.
Nobody is told when the allowance belongs to the group as a whole, or when its owner is that
source.
-/

namespace Sluice.Notice

/-- The type of a notice. -/
def type : String := "com_gateway_limit_reached"

/-- The text of a notice. -/
def text : String :=
  "\u26a0 Publishing limit reached.\n\n" ++
    "Increase your publishing limit or nominate own sources for a dedicated limit.\n\n" ++
    "If you did not publish messages, check the publication sources you own."

/-- The notice to an owner in a group, with the source of the batch. -/
def make (id source groupId owner : String) : Event :=
  ((Event.make id source type).withAttribute AttributeName.toGroup (.string groupId)
    |>.withAttribute AttributeName.toUser (.string owner)).withText text

/-- There is an owner to tell, other than the source itself. -/
def isDue (owner source : String) : Bool := !owner.isEmpty && owner != source

end Sluice.Notice
