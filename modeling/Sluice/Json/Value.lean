import Sluice.Json.Reader

/-!
# JSON values and their compact text

`Value` is a JSON value whose objects keep the order of their members.  `Value.render` writes it
without blanks: a quote, a backslash and the control characters of a string are escaped, all else
stands as it is.

`Reader.value` reads a value of any kind with a bound on the lists and objects in each other.
-/

namespace Sluice.Json

inductive Value where
  | null
  | boolean (value : Bool)
  | number (value : Number)
  | string (value : String)
  | list (items : List Value)
  /-- An object, its members in order. -/
  | object (members : List (String × Value))
deriving Repr

/-- A whole number as a value. -/
def Value.whole (n : Int) : Value := .number (.whole n)

/-- A value, or `null` for none. -/
def Value.orNull {α : Type} (f : α → Value) : Option α → Value
  | some a => f a
  | none => .null

/-- The shape of a value. -/
def Value.shape : Value → Shape
  | .null => .null
  | .boolean b => .boolean b
  | .number n => n.shape
  | .string s => .string s
  | .list _ => .list
  | .object _ => .object

/-! ## Writing -/

/-- A character of a string as it is written. -/
def writtenChar (c : Char) : List Char :=
  if c = '\x22' then ['\\', '\x22']
  else if c = '\\' then ['\\', '\\']
  else if c = '\x08' then ['\\', 'b']
  else if c = '\x09' then ['\\', 't']
  else if c = '\x0a' then ['\\', 'n']
  else if c = '\x0c' then ['\\', 'f']
  else if c = '\x0d' then ['\\', 'r']
  else if c.toNat < 0x20 then
    ['\\', 'u', '0', '0', Nat.digitChar (c.toNat / 16), Nat.digitChar (c.toNat % 16)]
  else [c]

/-- A string as it is written. -/
def writtenString (s : String) : String :=
  String.ofList ('\x22' :: s.toList.flatMap writtenChar ++ ['\x22'])

/-- A number as it is written. -/
def Number.written : Number → String
  | .whole n => toString n
  | .fraction t => t

mutual

/-- A value without blanks. -/
def Value.render : Value → String
  | .null => "null"
  | .boolean true => "true"
  | .boolean false => "false"
  | .number n => n.written
  | .string s => writtenString s
  | .list items => "[" ++ renderItems items ++ "]"
  | .object members => "\x7b" ++ renderMembers members ++ "\x7d"

/-- The items of a list with commas between them. -/
def renderItems : List Value → String
  | [] => ""
  | [v] => v.render
  | v :: w :: r => v.render ++ "," ++ renderItems (w :: r)

/-- The members of an object with commas between them. -/
def renderMembers : List (String × Value) → String
  | [] => ""
  | [(k, v)] => writtenString k ++ ":" ++ v.render
  | (k, v) :: w :: r => writtenString k ++ ":" ++ v.render ++ "," ++ renderMembers (w :: r)

end

/-! ## Reading -/

/-- The members of any object, last first. -/
def anyMembers (r : Reader Value) : Members (List (String × Value)) where
  member read key := .ok (r.map fun v => (key, v) :: read)

/-- A value that starts with this byte, by the reader of the values in it. -/
def valueAt (inner : Option (Reader Value)) (b : UInt8) (s : List UInt8) : Outcome Value :=
  if b = 0x6E then (word [0x75, 0x6C, 0x6C] s).map (.null, ·)
  else if b = 0x74 then (word [0x72, 0x75, 0x65] s).map (.boolean true, ·)
  else if b = 0x66 then (word [0x61, 0x6C, 0x73, 0x65] s).map (.boolean false, ·)
  else if b = 0x2D then (Json.number false s).map fun (n, t) => (.number n, t)
  else if isDigit b then (Json.number true (b :: s)).map fun (n, t) => (.number n, t)
  else if b = 0x22 then (Json.string s).map fun (x, t) => (.string x, t)
  else if b = 0x5B then
    match inner with
    | none => .error (.atNext .depth (b :: s))
    | some r =>
      match elements r true [] s with
      | .ok (l, t) => .ok (.list l, t)
      | .error e => .error (e.settle closeList)
  else if b = 0x7B then
    match inner with
    | none => .error (.atNext .depth (b :: s))
    | some r =>
      match (anyMembers r).from true [] s with
      | .ok (l, t) => .ok (.object l.reverse, t)
      | .error e => .error (e.settle closeObject)
  else .error (.atNext .valueDue (b :: s))

theorem map_eq_ok {ε α β : Type} {x : Except ε α} {f : α → β} {b : β} (h : x.map f = .ok b) :
    ∃ a, x = .ok a ∧ f a = b := by
  cases x with
  | error e => cases h
  | ok a =>
    cases h
    exact ⟨a, rfl, rfl⟩

theorem valueAt_length {inner : Option (Reader Value)} {b : UInt8} {s t : List UInt8} {v : Value}
    (h : valueAt inner b s = .ok (v, t)) : t.length ≤ s.length := by
  have ofWord {w : List UInt8} {x : Value} (h : (word w s).map (x, ·) = .ok (v, t)) :
      t.length ≤ s.length := by
    obtain ⟨u, hu, he⟩ := map_eq_ok h
    cases he
    exact word_length hu
  unfold valueAt at h
  split at h
  · exact ofWord h
  split at h
  · exact ofWord h
  split at h
  · exact ofWord h
  split at h
  · obtain ⟨p, hp, he⟩ := map_eq_ok h
    cases he
    exact Nat.le_of_lt (number_shortens hp)
  split at h
  · obtain ⟨p, hp, he⟩ := map_eq_ok h
    cases he
    have := number_shortens hp
    simp only [List.length_cons] at this
    omega
  split at h
  · obtain ⟨p, hp, he⟩ := map_eq_ok h
    cases he
    exact Nat.le_of_lt (string_shortens hp)
  split at h
  · split at h
    · cases h
    · split at h
      · rename_i hl
        cases h
        exact Nat.le_of_lt (elements_shortens hl)
      · cases h
  split at h
  · split at h
    · cases h
    · split at h
      · rename_i hl
        cases h
        exact Nat.le_of_lt (Members.from_shortens hl)
      · cases h
  · cases h

/-- A value of any kind with at most so many lists and objects in each other. -/
def Reader.value : (levels : Nat) → Reader Value
  | 0 => .atByte (valueAt none) valueAt_length
  | levels + 1 => .atByte (valueAt (some (Reader.value levels))) valueAt_length

end Sluice.Json
