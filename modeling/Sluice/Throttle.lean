import Sluice.Decimal.Shortest
import Sluice.Time.Calendar

/-!
# Throttling by a bucket of tokens

A `Bucket` fills with tokens at a steady rate up to its size, and every request that is admitted
takes one out.  A request that finds less than one token is refused and told how many whole
seconds to wait until there is one.

The bucket counts in any numbers with the operations of `TokenNumber`.  Doubles are such numbers.
Time is measured in nanoseconds; a reading of the clock that is older than one already seen counts
as that one.
-/

namespace Sluice

/-- Numbers that tokens can be counted in. -/
class TokenNumber (K : Type) extends Add K, Sub K, Mul K, Div K, Min K where
  ofNat : Nat → K
  /-- Nanoseconds as seconds. -/
  seconds : Nat → K
  /-- Seconds as the nearest number of nanoseconds, if they are a time that can be waited. -/
  nanoseconds? : K → Option Nat
  /-- The next whole number, as a word of 64 bits. -/
  ceiling : K → UInt64

/-! ## Doubles -/

/-- The quotient of two numbers to the nearest natural number; a half goes to the even one. -/
def roundDiv (numerator denominator : Nat) : Nat :=
  let quotient := numerator / denominator
  let twice := 2 * (numerator % denominator)
  if twice < denominator ∨ (twice = denominator ∧ quotient % 2 = 0) then quotient else quotient + 1

/-- The seconds that cannot be waited any more. -/
def secondsLimit : Float := 18446744073709551616

/-- The nearest number of nanoseconds of a double that is not negative and below the limit. -/
def nanosecondsOf? (x : Float) : Option Nat :=
  if x < 0 then none
  else if x < secondsLimit then
    let b := Decimal.Binary.ofBits (x.toBits.toNat % Nat.pow 2 63)
    some (roundDiv (b.significand * nanosPerSecond * Nat.pow 2 b.exponent.toNat)
      (Nat.pow 2 (-b.exponent).toNat))
  else none

instance : TokenNumber Float where
  ofNat := Float.ofNat
  seconds n := Float.ofNat (n / nanosPerSecond) + Float.ofNat (n % nanosPerSecond) / 1e9
  nanoseconds? := nanosecondsOf?
  ceiling x := x.ceil.toUInt64

/-! ## Buckets -/

variable {K : Type} [TokenNumber K]

/-- How fast a bucket fills, and how much it holds. -/
structure RateLimit (K : Type) where
  /-- The tokens added in a second. -/
  rate : K
  /-- The most tokens. -/
  burst : UInt32

/-- A number of requests in a minute, at least one, without more than one at a time. -/
def RateLimit.perMinute (n : UInt32) : RateLimit K :=
  ⟨TokenNumber.ofNat (max n 1).toNat / TokenNumber.ofNat 60, 1⟩

/-- The state of a bucket. -/
structure Bucket (K : Type) where
  /-- The tokens at the latest time. -/
  tokens : K
  /-- The latest time seen. -/
  latest : Nat

/-- What becomes of a request. -/
inductive Verdict where
  | admitted
  /-- It is refused, with the seconds to wait if that time can be told. -/
  | refused (wait : Option UInt64)
deriving DecidableEq, Repr

namespace Bucket

/-- A full bucket at a time. -/
def full (limit : RateLimit K) (now : Nat) : Bucket K :=
  ⟨TokenNumber.ofNat limit.burst.toNat, now⟩

/-- The bucket after it was filled up to a time. -/
def refill (limit : RateLimit K) (now : Nat) (b : Bucket K) : Bucket K :=
  ⟨min (b.tokens + TokenNumber.seconds (now - b.latest) * limit.rate)
      (TokenNumber.ofNat limit.burst.toNat),
    max b.latest now⟩

/-- The whole seconds to advise for a wait, at least one. -/
def advice (wait : K) : Option UInt64 :=
  (TokenNumber.nanoseconds? wait).map fun n =>
    max (TokenNumber.ceiling (TokenNumber.seconds n : K)) 1

/-- A request at a time: what becomes of it, and the bucket then. -/
def check [LE K] [DecidableLE K] (limit : RateLimit K) (now : Nat) (b : Bucket K) :
    Verdict × Bucket K :=
  let one : K := TokenNumber.ofNat 1
  let b := b.refill limit now
  if one ≤ b.tokens then (.admitted, { b with tokens := b.tokens - one })
  else (.refused (advice ((one - b.tokens) / limit.rate)), b)

end Bucket

end Sluice
