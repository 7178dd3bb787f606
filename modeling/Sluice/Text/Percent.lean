import Sluice.Text.Number
import Sluice.Text.Utf8

/-!
# Percent encoding

A byte that may not stand in a text is written as `%` and two hexadecimal digits.  Which bytes may
stand is told by a set of characters; bytes that belong to no ASCII character never may.
-/

namespace Sluice.Text.Percent

/-- A hexadecimal digit in upper case. -/
def hexDigit (n : Nat) : Char := (Nat.digitChar n).toUpper

/-- A byte as `%` and two digits. -/
def escape (b : UInt8) : List Char := ['%', hexDigit (b.toNat / 16), hexDigit (b.toNat % 16)]

/-- A byte, escaped unless its character may stand. -/
def encodeByte (stands : Char → Bool) (b : UInt8) : List Char :=
  if b < 0x80 && stands (Char.ofNat b.toNat) then [Char.ofNat b.toNat] else escape b

/-- A text with the bytes escaped that may not stand. -/
def encode (stands : Char → Bool) (s : String) : String :=
  String.ofList ((bytes s).flatMap (encodeByte stands))

/-- Bytes with every escaped byte put in place of its escape. -/
def decode : List UInt8 → List UInt8
  | [] => []
  | 0x25 :: a :: b :: r =>
    match hexValue? a, hexValue? b with
    | some x, some y => UInt8.ofNat (x * 16 + y) :: decode r
    | _, _ => 0x25 :: decode (a :: b :: r)
  | b :: r => b :: decode r

/-- A character that stands as it is in the fields of a form. -/
def standsInForm (c : Char) : Bool := c.isAlphanum || "*-._".toList.contains c

/-- A text as the field of a form: a space becomes a plus sign. -/
def formField (s : String) : String :=
  String.ofList ((bytes s).flatMap fun b => if b = 0x20 then ['+'] else encodeByte standsInForm b)

/-- The fields of a form by their names. -/
def form (fields : List (String × String)) : String :=
  "&".intercalate (fields.map fun (name, value) => formField name ++ "=" ++ formField value)

end Sluice.Text.Percent
