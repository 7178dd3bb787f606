/-!
# Loading again at intervals

A `Ticker` tells how many loads are due.  One is due at the end of every interval since the start;
loads whose time has passed are made up one after the other.
-/

namespace Sluice

/-- A clock that is due at intervals. -/
structure Ticker where
  /-- The length of an interval; nothing is ever due without one. -/
  period : Nat
  /-- The next time that is due. -/
  next : Nat
deriving DecidableEq, Repr

namespace Ticker

/-- The clock that starts at a time. -/
def start (now period : Nat) : Ticker := ⟨period, now + period⟩

/-- How many times have become due, and the clock after them. -/
def due (t : Ticker) (now : Nat) : Nat × Ticker :=
  if t.period = 0 ∨ now < t.next then (0, t)
  else
    let times := (now - t.next) / t.period + 1
    (times, { t with next := t.next + times * t.period })

end Ticker

end Sluice
