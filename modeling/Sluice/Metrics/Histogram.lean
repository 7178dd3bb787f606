import Sluice.Decimal.Shortest
import Sluice.Json.Value

/-!
# Histograms of durations

A `Histogram` counts values by the first of its bounds that they do not exceed, and keeps their
number and their sum.  All of these are words of 64 bits and start again at zero after the last.
-/

namespace Sluice

/-- How doubles are written in JSON: the first digit stands between the fifth place after the point
and the sixteenth before it, or there is a power of ten with its sign. -/
def Json.doubleStyle : Decimal.Style := ⟨-5, 15, true, true⟩

def Json.Value.double (x : Float) : Json.Value := .number (.fraction (Json.doubleStyle.text x))

/-- The bounds of the buckets of a histogram, other than the last bucket, which has none. -/
def Histogram.bounds : List UInt64 := [1, 5, 10, 25, 50, 100, 250, 500, 1000, 5000]

def Histogram.bucketCount : Nat := bounds.length + 1

/-- Counted values. -/
structure Histogram where
  /-- The number of values in each bucket. -/
  counts : Vector UInt64 Histogram.bucketCount
  count : UInt64
  /-- The sum of the values. -/
  sum : UInt64
deriving DecidableEq

namespace Histogram

def empty : Histogram := ⟨Vector.replicate bucketCount 0, 0, 0⟩

/-- The bucket of a value. -/
def bucketOf (value : UInt64) : Fin bucketCount :=
  ⟨bounds.findIdx (value ≤ ·), Nat.lt_succ_of_le List.findIdx_le_length⟩

/-- The histogram with one more value. -/
def observe (h : Histogram) (value : UInt64) : Histogram :=
  let i := bucketOf value
  ⟨h.counts.set i (h.counts[i] + 1), h.count + 1, h.sum + value⟩

/-- The mean of the values; zero if there are none. -/
def mean (h : Histogram) : Float :=
  if h.count = 0 then 0 else h.sum.toFloat / h.count.toFloat

/-- The bounds of the buckets, and how many values are in each. -/
def buckets (h : Histogram) : List (UInt64 × UInt64) :=
  (bounds ++ [UInt64.ofNat (UInt64.size - 1)]).zip h.counts.toList

end Histogram

end Sluice
