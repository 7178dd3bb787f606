/-!
# The shortest decimal of a binary fraction

A finite double is a binary fraction `m * 2 ^ q`.  The reals that round to it form an interval,
whose ends belong to it when `m` is even.  `shortest` looks for the coarsest decimal grid with a
point in that interval: for one digit, two digits and so on it tests the two neighbours of the
value on the grid, takes the nearer of two hits, and of two equally near ones the even.  All of it
is exact arithmetic on natural numbers.

`Style` says how the digits are written: for which exponents without a power of ten, whether a whole
number keeps a point, and whether a positive exponent has a sign.
-/

namespace Sluice.Decimal

/-- A decimal number `digits * 10 ^ exponent`. -/
structure Scaled where
  /-- The digits, as a number. -/
  digits : Nat
  /-- The power of ten they are multiplied by. -/
  exponent : Int
deriving DecidableEq, Repr

/-- A positive binary fraction `significand * 2 ^ exponent`. -/
structure Binary where
  significand : Nat
  /-- The power of two. -/
  exponent : Int
  /-- The next smaller fraction is only half as far away as the next larger one. -/
  isPower : Bool
deriving DecidableEq, Repr

/-- The fraction of the magnitude bits of a finite double. -/
def Binary.ofBits (bits : Nat) : Binary :=
  let mantissa : Nat := bits % Nat.pow 2 52
  let biased : Nat := bits / Nat.pow 2 52 % Nat.pow 2 11
  if biased = 0 then ⟨mantissa, -1074, false⟩
  else ⟨Nat.pow 2 52 + mantissa, (biased : Int) - 1075, mantissa == 0 && biased != 1⟩

/-- The number of decimal digits of a positive number. -/
def digitCount (n : Nat) : Nat := (Nat.toDigits 10 n).length

/-- The power of ten of the first digit of a fraction that is at least `10 ^ -342`. -/
def Binary.leading (b : Binary) : Int :=
  let scaled :=
    b.significand * Nat.pow 10 342 * Nat.pow 2 b.exponent.toNat / Nat.pow 2 (-b.exponent).toNat
  (digitCount scaled : Int) - 343

/-- The point of the grid `10 ^ step` nearest to the fraction among those that round to it. -/
def Binary.onGrid (b : Binary) (step : Int) : Option Scaled :=
  let quarter := b.exponent - 2
  let up := Nat.pow 2 quarter.toNat * Nat.pow 10 (-step).toNat
  let down := Nat.pow 2 (-quarter).toNat * Nat.pow 10 step.toNat
  let value := 4 * b.significand * up
  let low := (4 * b.significand - (if b.isPower then 1 else 2)) * up
  let high := (4 * b.significand + 2) * up
  let inside (d : Nat) : Bool :=
    if b.significand % 2 = 0 then low ≤ d * down && d * down ≤ high
    else low < d * down && d * down < high
  let below := value / down
  let above := below + 1
  match inside below, inside above with
  | true, true =>
    let toBelow := value - below * down
    let toAbove := above * down - value
    if toBelow < toAbove || (toBelow == toAbove && below % 2 == 0) then some ⟨below, step⟩
    else some ⟨above, step⟩
  | true, false => some ⟨below, step⟩
  | false, true => some ⟨above, step⟩
  | false, false => none

/-- The shortest decimal that rounds to a fraction.  Seventeen digits always suffice. -/
def Binary.shortest (b : Binary) : Scaled :=
  let leading := b.leading
  match (List.range 17).findSome? fun (n : Nat) => b.onGrid (leading - (n : Int)) with
  | some s => s
  | none => ⟨b.significand, b.exponent⟩

/-! ## Writing -/

/-- How a decimal is written. -/
structure Style where
  /-- The least exponent of a first digit that is written without a power of ten. -/
  least : Int
  /-- The greatest such exponent. -/
  most : Int
  /-- A whole number written without a power of ten ends in a point and a zero. -/
  keepsPoint : Bool
  /-- A positive power of ten has a sign. -/
  signsPower : Bool
deriving DecidableEq, Repr

/-- The texts before and after the decimal point when the first of the digits has this exponent. -/
def placed (digits : List Char) (leading : Int) : List Char × List Char :=
  if leading < 0 then (['0'], List.replicate (-leading - 1).toNat '0' ++ digits)
  else
    let whole := leading.toNat + 1
    (digits.take whole ++ List.replicate (whole - digits.length) '0', digits.drop whole)

/-- A positive decimal in a style. -/
def Style.write (style : Style) (s : Scaled) : List Char :=
  let all := Nat.toDigits 10 s.digits
  let digits := (all.reverse.dropWhile (· == '0')).reverse
  let leading := s.exponent + all.length - 1
  if style.least ≤ leading ∧ leading ≤ style.most then
    match placed digits leading with
    | (whole, []) => if style.keepsPoint then whole ++ ['.', '0'] else whole
    | (whole, fraction) => whole ++ '.' :: fraction
  else
    let mantissa :=
      match digits with
      | [] => ['0']
      | [d] => [d]
      | d :: r => d :: '.' :: r
    let sign := if leading < 0 then ['-'] else if style.signsPower then ['+'] else []
    mantissa ++ 'e' :: sign ++ Nat.toDigits 10 leading.natAbs

/-- A double in a style. -/
def Style.text (style : Style) (x : Float) : String :=
  let bits := x.toBits.toNat
  let magnitude := bits % Nat.pow 2 63
  let sign := if bits < Nat.pow 2 63 then [] else ['-']
  if magnitude > 0x7FF0000000000000 then "NaN"
  else if magnitude = 0x7FF0000000000000 then String.ofList (sign ++ ['i', 'n', 'f'])
  else if magnitude = 0 then
    String.ofList (sign ++ if style.keepsPoint then ['0', '.', '0'] else ['0'])
  else String.ofList (sign ++ style.write (Binary.ofBits magnitude).shortest)

end Sluice.Decimal
