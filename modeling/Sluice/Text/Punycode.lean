/-!
# Punycode

Any text as letters, digits and hyphens: first its characters in ASCII, with a hyphen after them,
and then where the others stand.  These go in by ascending code point, and each is told by how far
it lies from the one before, counted in steps that walk through all places of the text for one code
point after another.

A distance is written in digits of base 36, the lowest first.  Every place has a `threshold`; the
first digit below its threshold is the last one.  The thresholds follow a bias that is adapted to
the distances seen, so that distances like those before are short.
-/

namespace Sluice.Text.Punycode

/-! ## Digits -/

/-- The character of a digit: the letters, then the decimal digits. -/
def digitChar (d : Nat) : Char :=
  if d < 26 then Char.ofNat ('a'.toNat + d) else Char.ofNat ('0'.toNat + (d - 26))

/-- The digit of a character. -/
def digit? (c : Char) : Option Nat :=
  if c.isLower then some (c.toNat - 'a'.toNat)
  else if c.isUpper then some (c.toNat - 'A'.toNat)
  else if c.isDigit then some (c.toNat - '0'.toNat + 26)
  else none

theorem digit?_digitChar {d : Nat} (h : d < 36) : digit? (digitChar d) = some d := by
  have : ∀ e ∈ List.range 36, digit? (digitChar e) = some e := by decide
  exact this d (List.mem_range.mpr h)

/-- The threshold of a place; the places are counted by 36, starting with 36. -/
def threshold (bias place : Nat) : Nat :=
  if place ≤ bias then 1 else if bias + 26 ≤ place then 26 else place - bias

theorem threshold_pos (bias place : Nat) : 1 ≤ threshold bias place := by
  unfold threshold
  split
  · omega
  · split <;> omega

theorem threshold_le (bias place : Nat) : threshold bias place ≤ 26 := by
  unfold threshold
  split
  · omega
  · split <;> omega

/-- How many places a distance is beyond one of 455, and what is left of it there. -/
def shrink (distance places : Nat) : Nat × Nat :=
  if 455 < distance then shrink (distance / 35) (places + 36) else (distance, places)
termination_by distance
decreasing_by exact Nat.div_lt_self (by omega) (by omega)

/-- The bias after a distance, by how many characters the text has then.  The first distance is
often long and counts less. -/
def adapt (distance size : Nat) (isFirst : Bool) : Nat :=
  let distance := if isFirst then distance / 700 else distance / 2
  let (rest, places) := shrink (distance + distance / size) 0
  places + 36 * rest / (rest + 38)

/-- The bias before all distances. -/
def firstBias : Nat := 72

/-! ## Writing -/

/-- The digits of a number from a place on. -/
def digits (bias place n : Nat) : List Char :=
  let t := threshold bias place
  if n < t then [digitChar n]
  else digitChar (t + (n - t) % (36 - t)) :: digits bias (place + 36) ((n - t) / (36 - t))
termination_by n
decreasing_by
  have := threshold_pos bias place
  calc (n - threshold bias place) / (36 - threshold bias place)
      ≤ n - threshold bias place := Nat.div_le_self ..
    _ < n := by omega

/-- How far a text is written. -/
structure Writer where
  /-- The digits so far. -/
  written : List Char
  /-- The distance from the last character written. -/
  distance : Nat
  bias : Nat
  /-- How many characters are written. -/
  size : Nat

/-- The writer after it passed a character of the text while it writes those of a code point. -/
def Writer.pass (basic point : Nat) (w : Writer) (c : Char) : Writer :=
  if c.toNat < point then { w with distance := w.distance + 1 }
  else if c.toNat = point then
    { written := w.written ++ digits w.bias 36 w.distance
      distance := 0
      bias := adapt w.distance (w.size + 1) (w.size = basic)
      size := w.size + 1 }
  else w

/-- The writer after the code points of a list, the first of which is not below `least`. -/
def Writer.points (text : List Char) (basic least : Nat) : List Nat → Writer → Writer
  | [], w => w
  | point :: r, w =>
    let w := { w with distance := w.distance + (point - least) * (w.size + 1) }
    let w := text.foldl (pass basic point) w
    points text basic (point + 1) r { w with distance := w.distance + 1 }

/-- A number put into an ascending list, unless it is there. -/
def insertPoint (n : Nat) : List Nat → List Nat
  | [] => [n]
  | m :: r => if n < m then n :: m :: r else if n = m then m :: r else m :: insertPoint n r

/-- A text in letters, digits and hyphens. -/
def encode (text : List Char) : List Char :=
  let basic := text.filter fun c => c.toNat < 0x80
  let points := (text.filter fun c => 0x80 ≤ c.toNat).foldl (fun l c => insertPoint c.toNat l) []
  let front := if basic.isEmpty then [] else basic ++ ['-']
  front ++ (Writer.points text basic.length 0x80 points ⟨[], 0, firstBias, basic.length⟩).written

/-! ## Reading -/

/-- What numbers stay below while they are read. -/
def bound : Nat := 0x100000000

/-- A number with the number added that digits spell from a place on, and the text after them. -/
def number? (bias place weight n : Nat) : List Char → Option (Nat × List Char)
  | [] => none
  | c :: r =>
    match digit? c with
    | none => none
    | some d =>
      let t := threshold bias place
      let n := n + d * weight
      if bound ≤ n then none
      else if d < t then some (n, r)
      else if bound ≤ weight * (36 - t) then none
      else number? bias (place + 36) (weight * (36 - t)) n r

theorem number?_shortens {bias place weight n m : Nat} {cs r : List Char}
    (h : number? bias place weight n cs = some (m, r)) : r.length < cs.length := by
  induction cs generalizing place weight n with
  | nil => simp [number?] at h
  | cons c cs ih =>
    rw [number?] at h
    split at h
    · cases h
    · dsimp only at h
      split at h
      · cases h
      · split at h
        · obtain ⟨_, rfl⟩ := Prod.mk.inj (Option.some.inj h)
          exact Nat.lt_succ_self _
        · split at h
          · cases h
          · exact Nat.lt_succ_of_lt (ih h)

/-- The text with the characters put in that distances tell, from a code point and a place on. -/
def insertAll? (bias point place : Nat) (text cs : List Char) : Option (List Char) :=
  match _h : cs with
  | [] => some text
  | _ :: _ =>
    match _hn : number? bias 36 1 place cs with
    | none => none
    | some (n, r) =>
      let size := text.length + 1
      let point := point + n / size
      if point.isValidChar then
        insertAll? (adapt (n - place) size (place = 0)) point (n % size + 1)
          (text.insertIdx (n % size) (Char.ofNat point)) r
      else none
termination_by cs.length
decreasing_by exact _h ▸ number?_shortens _hn

/-- The text that letters, digits and hyphens spell.  A hyphen at the front ends no characters. -/
def decode (cs : List Char) : Option (List Char) :=
  match cs.reverse.span (· != '-') with
  | (back, _ :: c :: front) =>
    if (c :: front).all (·.toNat < 0x80) then
      insertAll? firstBias 0x80 0 (c :: front).reverse back.reverse
    else none
  | _ => insertAll? firstBias 0x80 0 [] cs

end Sluice.Text.Punycode
