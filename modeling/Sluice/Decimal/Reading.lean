import Sluice.Decimal.Shortest
import Sluice.Text.Number

/-!
# Decimals as doubles

The double nearest to a decimal number, and the texts of numbers: digits with a point among them
or at one of their ends, a power of ten, and the names of infinity and of what is not a number.
-/

namespace Sluice.Decimal

open Text (number?)

/-- The double nearest to a decimal.  Far beyond the doubles on either side no power is computed. -/
def Scaled.toFloat (s : Scaled) : Float :=
  let leading := s.exponent + digitCount s.digits
  if s.digits = 0 ∨ leading < -400 then 0
  else if 400 < leading then 1 / 0
  else Float.ofScientific s.digits (s.exponent < 0) s.exponent.natAbs

/-- A sign ahead, which is not there without need, and what follows it. -/
def signAhead : List Char → Bool × List Char
  | '-' :: r => (true, r)
  | '+' :: r => (false, r)
  | r => (false, r)

/-- The power of ten that a text spells. -/
def power? (cs : List Char) : Option Int :=
  match cs with
  | [] => some 0
  | c :: r =>
    if c = 'e' ∨ c = 'E' then
      let (negative, digits) := signAhead r
      (number? 10 digits).map fun n => if negative then -n else n
    else none

/-- The decimal that a text without a sign spells. -/
def Scaled.read (cs : List Char) : Option Scaled := do
  let whole := cs.takeWhile Char.isDigit
  let rest := cs.dropWhile Char.isDigit
  let (places, rest) :=
    match rest with
    | '.' :: r => (r.takeWhile Char.isDigit, r.dropWhile Char.isDigit)
    | r => ([], r)
  some ⟨← number? 10 (whole ++ places), (← power? rest) - places.length⟩

/-- The double that a text spells. -/
def readFloat (cs : List Char) : Option Float := do
  let (negative, cs) := signAhead cs
  let name := String.ofList (cs.map Char.toLower)
  let x ←
    if name == "inf" || name == "infinity" then some (1 / 0)
    else if name == "nan" then some (0 / 0)
    else (Scaled.read cs).map Scaled.toFloat
  some (if negative then -x else x)

end Sluice.Decimal
