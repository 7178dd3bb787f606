import Sluice.Domain.Reading
import Sluice.Http.Address
import Sluice.Text.Percent

/-!
# Hosts

The host of an address is an address of version 6 in brackets, or a name.  A scheme tells whether
names are those of domains: these are brought into their one spelling, and one that ends in a number
must be an address of version 4.  The names of other schemes stand as they are.
-/

namespace Sluice.Http.Host

open Text (splitBy number?)

/-! ## Addresses as numbers -/

/-- A number of an address, in base ten, eight after a zero, or sixteen after `0x`. -/
def addressNumber? (cs : List Char) : Option Nat :=
  match cs with
  | [] => none
  | '0' :: x :: r =>
    if x = 'x' ∨ x = 'X' then if r.isEmpty then some 0 else number? 16 r
    else number? 8 (x :: r)
  | cs => number? 10 cs

/-- The labels of a domain without an empty one at the end. -/
def labels (cs : List Char) : List (List Char) :=
  let all := splitBy (· == '.') cs
  if all.length > 1 ∧ all.getLast? = some [] then all.dropLast else all

/-- The last label of a domain is a number, so that it must be an address. -/
def endsInNumber (cs : List Char) : Bool :=
  match (labels cs).getLast? with
  | none => false
  | some last => (!last.isEmpty && last.all Char.isDigit) || (addressNumber? last).isSome

/-- The address of up to four numbers; the last of them fills the bytes that are left. -/
def addressOf? (cs : List Char) : Option Ipv4 := do
  let numbers ← (labels cs).mapM addressNumber?
  match numbers.reverse with
  | [] => none
  | last :: front =>
    if front.length ≤ 3 ∧ front.all (· < 256) ∧ last < Nat.pow 256 (4 - front.length) then
      let high := front.reverse.foldl (fun n b => n * 256 + b) 0
      some (UInt32.ofNat (high * Nat.pow 256 (4 - front.length) + last))
    else none

/-! ## Names -/

/-- A domain in its one spelling, or the address that it is. -/
def ofDomain? (cs : List Char) : Option String := do
  let text ← Text.ofBytes? (Text.Percent.decode (Text.bytes (String.ofList cs)))
  let domain ← Domain.read text.toList
  if domain.isEmpty then none
  else if endsInNumber domain then (addressOf? domain).map Ipv4.text
  else some (String.ofList domain)

/-- A character that no name may have. -/
def isForbidden (c : Char) : Bool := c.toNat == 0 || "\t\n\r #/:<>?@[\\]^|".toList.contains c

/-- A printed character of ASCII. -/
def isPrinted (c : Char) : Bool := 0x20 ≤ c.toNat && c.toNat < 0x7F

/-- The host that a text spells, in its one spelling. -/
def read (hasDomains : Bool) (cs : List Char) : Option String :=
  match cs with
  | '[' :: r =>
    if r.getLast? = some ']' then (Ipv6.read r.dropLast).map fun a => "[" ++ a.text ++ "]"
    else none
  | cs =>
    if hasDomains then ofDomain? cs
    else if cs.any isForbidden then none
    else some (Text.Percent.encode isPrinted (String.ofList cs))

end Sluice.Http.Host
