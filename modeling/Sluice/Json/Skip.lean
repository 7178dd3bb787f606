import Sluice.Json.Scan

/-!
# Values that are passed over

A member of an unknown name is passed over without being kept.  Its words, numbers and escapes
must be well formed, but neither its depth nor the text of its strings is looked at: the brackets
that are open are a list, so `skip` needs no more room for a deep value than for a long one.

`skip_length` says that a value takes at least one byte.
-/

namespace Sluice.Json

/-! ## Strings and numbers passed over -/

/-- The bytes after an escape, after its backslash. -/
def skipEscape : List UInt8 → Except Failure (List UInt8)
  | [] => .error (.here .endInString [])
  | b :: s =>
    if (letterEscape? b).isSome then .ok s
    else if b = 0x75 then (fourHex s).map (·.2)
    else .error (.here .escapeForm s)

theorem skipEscape_length {s t : List UInt8} (h : skipEscape s = .ok t) : t.length ≤ s.length := by
  unfold skipEscape at h
  split at h
  · cases h
  · rename_i b s
    split at h
    · cases h
      simp
    · split at h
      · cases hf : fourHex s with
        | error e => rw [hf] at h; cases h
        | ok r =>
          rw [hf] at h
          cases h
          have := fourHex_length hf
          simp only [List.length_cons]
          omega
      · cases h

/-- The bytes after a string, after its opening quote. -/
def skipString (s : List UInt8) : Except Failure (List UInt8) :=
  match s with
  | [] => .error (.here .endInString [])
  | b :: s =>
    if b = 0x22 then .ok s
    else if b = 0x5C then
      match h : skipEscape s with
      | .error e => .error e
      | .ok t =>
        have := skipEscape_length h
        skipString t
    else if b < 0x20 then .error (.here .control (b :: s))
    else skipString s
termination_by s.length

theorem skipString_shortens {s t : List UInt8} (h : skipString s = .ok t) :
    t.length < s.length := by
  fun_induction skipString s with
  | case1 => cases h
  | case2 => cases h; simp
  | case3 => cases h
  | case4 s t' he hl _ ih =>
    have := ih h
    simp only [List.length_cons]
    omega
  | case5 => cases h
  | case6 b s _ _ _ ih =>
    have := ih h
    simp only [List.length_cons]
    omega

/-- The bytes after a power of ten, after its `e`. -/
def skipPower (s : List UInt8) : Except Failure (List UInt8) :=
  let s :=
    match s with
    | b :: t => if b = 0x2B ∨ b = 0x2D then t else s
    | [] => s
  match s with
  | b :: t => if isDigit b then .ok (skipDigits t) else .error (.here .numberForm t)
  | [] => .error (.here .numberForm [])

/-- The bytes after a power of ten, if one is given. -/
def skipPowerIfAny (s : List UInt8) : Except Failure (List UInt8) :=
  match s with
  | b :: t => if b = 0x65 ∨ b = 0x45 then skipPower t else .ok s
  | [] => .ok []

/-- The bytes after the fraction and the power of a number, after its whole part. -/
def skipFraction (s : List UInt8) : Except Failure (List UInt8) :=
  match s with
  | 0x2E :: b :: t =>
    if isDigit b then skipPowerIfAny (skipDigits t) else .error (.atNext .numberForm (b :: t))
  | [0x2E] => .error (.atNext .numberForm [])
  | _ => skipPowerIfAny s

/-- The bytes after a number, after its sign. -/
def skipNumber : List UInt8 → Except Failure (List UInt8)
  | [] => .error (.here .numberForm [])
  | b :: s =>
    if b = 0x30 then
      match s with
      | c :: _ => if isDigit c then .error (.atNext .numberForm s) else skipFraction s
      | [] => .ok []
    else if isDigit b then skipFraction (skipDigits s)
    else .error (.here .numberForm s)

theorem skipPower_length {s t : List UInt8} (h : skipPower s = .ok t) : t.length ≤ s.length := by
  unfold skipPower at h
  generalize hq : (match s with
    | b :: t => if b = 0x2B ∨ b = 0x2D then t else s
    | [] => s) = q at h
  have hs : q.length ≤ s.length := by
    subst hq
    split
    · split
      · simp
      · exact Nat.le_refl _
    · exact Nat.le_refl _
  simp only at h
  split at h
  · rename_i b u
    split at h
    · cases h
      have := skipDigits_length u
      simp only [List.length_cons] at hs
      omega
    · cases h
  · cases h

theorem skipPowerIfAny_length {s t : List UInt8} (h : skipPowerIfAny s = .ok t) :
    t.length ≤ s.length := by
  unfold skipPowerIfAny at h
  split at h
  · split at h
    · have := skipPower_length h
      simp only [List.length_cons]
      omega
    · cases h
      exact Nat.le_refl _
  · cases h
    exact Nat.le_refl _

theorem skipFraction_length {s t : List UInt8} (h : skipFraction s = .ok t) :
    t.length ≤ s.length := by
  unfold skipFraction at h
  split at h
  · rename_i b u
    split at h
    · have := skipPowerIfAny_length h
      have := skipDigits_length u
      simp only [List.length_cons]
      omega
    · cases h
  · cases h
  · exact skipPowerIfAny_length h

theorem skipNumber_shortens {s t : List UInt8} (h : skipNumber s = .ok t) :
    t.length < s.length := by
  unfold skipNumber at h
  split at h
  · cases h
  · rename_i b s
    simp only [List.length_cons]
    split at h
    · split at h
      · split at h
        · cases h
        · exact Nat.lt_succ_of_le (skipFraction_length h)
      · cases h
        simp
    · split at h
      · have := skipFraction_length h
        have := skipDigits_length s
        omega
      · cases h

/-! ## Values passed over -/

/-- The bytes after a word, a number or a string. -/
def skipScalar : List UInt8 → Except Failure (List UInt8)
  | [] => .error (.atNext .endInValue [])
  | b :: s =>
    if b = 0x6E then word [0x75, 0x6C, 0x6C] s
    else if b = 0x74 then word [0x72, 0x75, 0x65] s
    else if b = 0x66 then word [0x61, 0x6C, 0x73, 0x65] s
    else if b = 0x2D then skipNumber s
    else if isDigit b then skipNumber (b :: s)
    else if b = 0x22 then skipString s
    else .error (.atNext .valueDue (b :: s))

theorem skipScalar_shortens {s t : List UInt8} (h : skipScalar s = .ok t) :
    t.length < s.length := by
  unfold skipScalar at h
  split at h
  · cases h
  · rename_i b s
    simp only [List.length_cons]
    split at h
    · exact Nat.lt_succ_of_le (word_length h)
    · split at h
      · exact Nat.lt_succ_of_le (word_length h)
      · split at h
        · exact Nat.lt_succ_of_le (word_length h)
        · split at h
          · exact Nat.lt_succ_of_lt (skipNumber_shortens h)
          · split at h
            · exact skipNumber_shortens h
            · split at h
              · exact Nat.lt_succ_of_lt (skipString_shortens h)
              · cases h

/-- A list or an object that is open. -/
inductive Bracket where
  | list
  | object
deriving DecidableEq, Repr

/-- What is due at a point inside a value. -/
inductive Due where
  | value
  | key
  /-- What follows a value: a comma or an end, or nothing when no bracket is open. -/
  | next
deriving DecidableEq, Repr

/-- The bytes after a value, when `due` is due inside the brackets that are open. -/
def skip (due : Due) (opened : List Bracket) (s : List UInt8) : Except Failure (List UInt8) :=
  have _hs := skipBlank_length s
  match due, opened with
  | .value, _ =>
    match _hb : skipBlank s with
    | [] => .error (.atNext .endInValue [])
    | b :: t =>
      have _ht := skipBlank_length t
      if b = 0x5B then
        match _hu : skipBlank t with
        | [] => .error (.atNext .endInList [])
        | c :: u => if c = 0x5D then skip .next opened u else skip .value (.list :: opened) (c :: u)
      else if b = 0x7B then
        match _hu : skipBlank t with
        | [] => .error (.atNext .endInObject [])
        | c :: u => if c = 0x7D then skip .next opened u else skip .key (.object :: opened) (c :: u)
      else
        match hu : skipScalar (b :: t) with
        | .error e => .error e
        | .ok u =>
          have := skipScalar_shortens hu
          skip .next opened u
  | .key, _ =>
    match _hb : skipBlank s with
    | [] => .error (.atNext .endInObject [])
    | b :: t =>
      if b = 0x22 then
        match hu : skipString t with
        | .error e => .error e
        | .ok u =>
          have _ht := skipString_shortens hu
          have _hc := skipBlank_length u
          match _hv : skipBlank u with
          | [] => .error (.atNext .endInObject [])
          | c :: v =>
            if c = 0x3A then skip .value opened v else .error (.atNext .colonDue (c :: v))
      else .error (.atNext .keyNoString (b :: t))
  | .next, [] => .ok s
  | .next, .list :: outer =>
    match _hb : skipBlank s with
    | [] => .error (.atNext .endInList [])
    | b :: t =>
      if b = 0x2C then skip .value (.list :: outer) t
      else if b = 0x5D then skip .next outer t
      else .error (.atNext .listGoesOn (b :: t))
  | .next, .object :: outer =>
    match _hb : skipBlank s with
    | [] => .error (.atNext .endInObject [])
    | b :: t =>
      if b = 0x2C then skip .key (.object :: outer) t
      else if b = 0x7D then skip .next outer t
      else .error (.atNext .objectGoesOn (b :: t))
termination_by s.length
decreasing_by
  all_goals simp_all only [List.length_cons]
  all_goals omega

theorem skip_length {due : Due} {opened : List Bracket} {s t : List UInt8}
    (h : skip due opened s = .ok t) :
    t.length ≤ s.length ∧ (due = .value → t.length < s.length) := by
  fun_induction skip due opened s <;> simp_all only [reduceCtorEq, false_implies, and_true,
    forall_const, List.length_cons, Except.ok.injEq]
  all_goals omega

end Sluice.Json
