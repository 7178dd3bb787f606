import Sluice.Text.Blank
import Sluice.Time.Calendar

/-!
# Timestamps as text

`Timestamp.text` writes a timestamp in the form of RFC 3339 in UTC: a fraction of three, six or nine
digits, the fewest that lose nothing, and a year outside of 0 to 9999 with a sign.

`Timestamp.read` is more lenient.  White space may stand before numbers, hyphens and colons and
before the offset; a year may have a sign and then any number of digits; months, days and times
may have one digit; an offset may be written in several ways.  `Flaw` says what is wrong with a
text.
-/

namespace Sluice.Timestamp

/-! ## Writing -/

/-- A number in at least so many digits. -/
def padded (width n : Nat) : List Char :=
  let digits := Nat.toDigits 10 n
  List.replicate (width - digits.length) '0' ++ digits

/-- A year of four digits, or with a sign. -/
def yearText (year : Int) : List Char :=
  if 0 ≤ year ∧ year ≤ 9999 then padded 4 year.toNat
  else (if year < 0 then '-' else '+') :: padded 4 year.natAbs

/-- The fraction of a second. -/
def fractionText (nanos : Nat) : List Char :=
  if nanos = 0 then []
  else if nanos % 1000000 = 0 then '.' :: padded 3 (nanos / 1000000)
  else if nanos % 1000 = 0 then '.' :: padded 6 (nanos / 1000)
  else '.' :: padded 9 nanos

/-- A timestamp as characters. -/
def chars (t : Timestamp) : List Char :=
  yearText t.date.year ++ '-' :: padded 2 t.date.month ++ '-' :: padded 2 t.date.day ++
    'T' :: padded 2 t.hour ++ ':' :: padded 2 t.minute ++ ':' :: padded 2 t.second ++
    fractionText t.nanos ++ ['Z']

/-- A timestamp as text. -/
def text (t : Timestamp) : String := String.ofList t.chars

/-! ## Reading -/

/-- What is wrong with the text of a timestamp. -/
inductive Flaw where
  /-- The text ends too early. -/
  | short
  /-- A character that cannot stand there. -/
  | invalid
  /-- A number out of its range, or a day that does not exist. -/
  | range
  /-- A point in time outside of the years covered, once its offset is taken off. -/
  | impossible
  /-- More text after the timestamp. -/
  | long
deriving DecidableEq, Repr

/-- The text of a flaw. -/
def Flaw.message : Flaw → String
  | .short => "premature end of input"
  | .invalid => "input contains invalid characters"
  | .range => "input is out of range"
  | .impossible => "no possible date and time matching input"
  | .long => "trailing input"

/-- What is read and the characters after it. -/
abbrev Part (α : Type) := Except Flaw (α × List Char)

/-- The characters after white space. -/
def skipBlank (cs : List Char) : List Char := cs.dropWhile Text.isBlank

/-- The number of some digits. -/
def digitsValue (ds : List Char) : Nat := ds.foldl (fun n d => n * 10 + (d.toNat - 0x30)) 0

/-- A number of at least one digit, taken from `ds`, before the characters `rest`. -/
def numberOf (ds cs : List Char) : Part Nat :=
  match ds, cs with
  | [], [] => .error .short
  | [], _ :: _ => .error .invalid
  | _ :: _, _ => .ok (digitsValue ds, cs.drop ds.length)

/-- A number of one to `most` digits. -/
def number (most : Nat) (cs : List Char) : Part Nat :=
  numberOf ((cs.take most).takeWhile Char.isDigit) cs

/-- A number of any number of digits. -/
def longNumber (cs : List Char) : Part Nat := numberOf (cs.takeWhile Char.isDigit) cs

/-- A part of one or two digits within a range, after white space. -/
def part (least most : Nat) (cs : List Char) : Part Nat :=
  match number 2 (skipBlank cs) with
  | .error e => .error e
  | .ok (n, cs) => if least ≤ n ∧ n ≤ most then .ok (n, cs) else .error .range

/-- A character that must stand after white space. -/
def mark (c : Char) (cs : List Char) : Except Flaw (List Char) :=
  match skipBlank cs with
  | [] => .error .short
  | d :: cs => if d = c then .ok cs else .error .invalid

/-- A year, after white space. -/
def year (cs : List Char) : Part Int :=
  let signed (sign : Int) (cs : List Char) : Part Int :=
    match longNumber cs with
    | .error e => .error e
    | .ok (n, cs) =>
      if Int32.minValue.toInt ≤ sign * n ∧ sign * n ≤ Int32.maxValue.toInt then .ok (sign * n, cs)
      else .error .range
  match skipBlank cs with
  | '-' :: cs => signed (-1) cs
  | '+' :: cs => signed 1 cs
  | cs => (number 4 cs).map fun (n, cs) => (n, cs)

/-- The fraction of a second in nanoseconds; digits after the ninth are dropped. -/
def fraction : List Char → Part Nat
  | '.' :: cs =>
    match number 9 cs with
    | .error e => .error e
    | .ok (n, rest) =>
      .ok (n * Nat.pow 10 (9 - (cs.length - rest.length)), rest.dropWhile Char.isDigit)
  | cs => .ok (0, cs)

/-- Two digits. -/
def twoDigits : List Char → Part (Nat × Nat)
  | a :: b :: cs =>
    if a.isDigit && b.isDigit then .ok ((a.toNat - 0x30, b.toNat - 0x30), cs) else .error .invalid
  | [a] => .error (if a.toNat < 0x80 then .short else .invalid)
  | [] => .error .short

/-- The minutes of an offset after its sign. -/
def offsetMinutes (cs : List Char) : Part Nat :=
  match twoDigits cs with
  | .error e => .error e
  | .ok ((h₁, h₂), cs) =>
    match twoDigits (cs.dropWhile fun c => c == ':' || Text.isBlank c) with
    | .error e => .error e
    | .ok ((m₁, m₂), cs) =>
      if m₁ ≤ 5 then .ok ((h₁ * 10 + h₂) * 60 + (m₁ * 10 + m₂), cs) else .error .range

/-- An offset in minutes, positive to the east. -/
def offset (cs : List Char) : Part Int :=
  match cs with
  | 'Z' :: cs => .ok (0, cs)
  | 'z' :: cs => .ok (0, cs)
  | [] => .error .short
  | c :: rest =>
    if (cs.take 3).map Char.toUpper = ['U', 'T', 'C'] then .ok (0, cs.drop 3)
    else if c = '+' then (offsetMinutes rest).map fun (n, cs) => (n, cs)
    else if c = '-' ∨ c = '\u2212' then (offsetMinutes rest).map fun (n, cs) => (-n, cs)
    else .error .invalid

/-- The letter, or the blank, between a date and a time. -/
def separator : List Char → Except Flaw (List Char)
  | [] => .error .short
  | c :: cs => if c = 'T' ∨ c = 't' ∨ c = ' ' then .ok cs else .error .invalid

/-- The point in time of a date and a time of day at an offset in minutes. -/
def atOffset (date : Date) (hour minute second nanos : Nat) (east : Int) : Option Timestamp := do
  let minutes : Int := hour * 60 + minute - east
  let date ←
    if minutes < 0 then date.previous?
    else if minutes < 1440 then some date
    else date.next?
  let ofDay := (minutes % 1440).toNat
  Timestamp.of? date (ofDay / 60) (ofDay % 60) second nanos

/-- The timestamp of a text. -/
def read (s : String) : Except Flaw Timestamp := do
  let (year, cs) ← year s.toList
  let (month, cs) ← part 1 12 (← mark '-' cs)
  let (day, cs) ← part 1 31 (← mark '-' cs)
  let (hour, cs) ← part 0 23 (← separator cs)
  let (minute, cs) ← part 0 59 (← mark ':' cs)
  let (second, cs) ← part 0 60 (← mark ':' cs)
  let (nanos, cs) ← fraction cs
  let (east, cs) ← offset (skipBlank cs)
  if skipBlank cs ≠ [] then .error .long
  else
    match Date.of? year month day with
    | none => .error .range
    | some date =>
      if 1440 ≤ east.natAbs then .error .range
      else
        match atOffset date hour minute second nanos east with
        | none => .error .impossible
        | some t => .ok t

end Sluice.Timestamp
