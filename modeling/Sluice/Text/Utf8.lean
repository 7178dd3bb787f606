/-!
# Text as bytes

A text is written as its UTF-8 bytes (`bytes`) and read back by `ofBytes?`, which refuses bytes that
are no UTF-8.  `readable` reads any bytes at all: each longest start of a character that does not
go on as it must becomes one replacement character.

`ofBytes?_bytes` and `bytes_of_ofBytes?` say that the two directions agree, so a text and its bytes
determine each other.
-/

namespace Sluice.Text

/-- The bytes of a text in UTF-8. -/
def bytes (s : String) : List UInt8 := s.toByteArray.data.toList

/-- The text these bytes spell in UTF-8, if they spell one. -/
def ofBytes? (b : List UInt8) : Option String := String.fromUTF8? ⟨b.toArray⟩

theorem bytes_append (s t : String) : bytes (s ++ t) = bytes s ++ bytes t := by
  simp [bytes]

theorem ofBytes?_bytes (s : String) : ofBytes? (bytes s) = some s := by
  have h : (⟨s.toByteArray.data.toList.toArray⟩ : ByteArray) = s.toByteArray := by simp
  simp only [ofBytes?, bytes, String.fromUTF8?, h]
  rw [dif_pos s.isValidUTF8]
  rfl

theorem bytes_of_ofBytes? {b : List UInt8} {s : String} (h : ofBytes? b = some s) :
    bytes s = b := by
  unfold ofBytes? String.fromUTF8? at h
  split at h
  · cases h
    simp [bytes, String.fromUTF8]
  · cases h

theorem bytes_injective {s t : String} (h : bytes s = bytes t) : s = t := by
  have hs := ofBytes?_bytes s
  rw [h, ofBytes?_bytes] at hs
  exact (Option.some.inj hs).symm

/-! ## Reading any bytes -/

/-- A character begun: the bits so far, the bytes still owed, and the range of the next byte. -/
structure Begun where
  /-- The bits of the bytes read so far. -/
  bits : Nat
  /-- The bytes still owed, at least one. -/
  owed : Nat
  /-- The least value of the next byte. -/
  least : UInt8
  /-- The greatest value of the next byte. -/
  most : UInt8

/-- Where a reading of any bytes stands: the characters so far, last first, and the one begun. -/
structure Reading where
  /-- The characters read, last first. -/
  read : List Char
  /-- The character begun, if any. -/
  begun : Option Begun

/-- The character that stands for bytes that spell none. -/
def replacement : Char := '\ufffd'

/-- The reading after a byte that begins a character. -/
def Reading.start (read : List Char) (b : UInt8) : Reading :=
  let lead (owed : Nat) (least most : UInt8) : Reading :=
    ⟨read, some ⟨b.toNat % Nat.pow 2 (6 - owed), owed, least, most⟩⟩
  if b < 0x80 then ⟨Char.ofNat b.toNat :: read, none⟩
  else if b < 0xC2 then ⟨replacement :: read, none⟩
  else if b < 0xE0 then lead 1 0x80 0xBF
  else if b = 0xE0 then lead 2 0xA0 0xBF
  else if b = 0xED then lead 2 0x80 0x9F
  else if b < 0xF0 then lead 2 0x80 0xBF
  else if b = 0xF0 then lead 3 0x90 0xBF
  else if b < 0xF4 then lead 3 0x80 0xBF
  else if b = 0xF4 then lead 3 0x80 0x8F
  else ⟨replacement :: read, none⟩

/-- The reading after one more byte. -/
def Reading.next (r : Reading) (b : UInt8) : Reading :=
  match r.begun with
  | none => .start r.read b
  | some c =>
    if c.least ≤ b ∧ b ≤ c.most then
      let bits := c.bits * 64 + b.toNat % 64
      if c.owed ≤ 1 then ⟨Char.ofNat bits :: r.read, none⟩
      else ⟨r.read, some ⟨bits, c.owed - 1, 0x80, 0xBF⟩⟩
    else .start (replacement :: r.read) b

/-- The text of a reading at the end of the bytes. -/
def Reading.text (r : Reading) : String :=
  String.ofList (if r.begun.isSome then replacement :: r.read else r.read).reverse

/-- Any bytes as a text, with a replacement character where they spell none. -/
def readable (b : List UInt8) : String := (b.foldl Reading.next ⟨[], none⟩).text

end Sluice.Text
