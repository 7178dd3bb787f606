import Sluice.Json.Skip

/-!
# Readers of typed values

A reader takes a value of one type off the front of a text.  It always takes at least one byte, and
says so in its type, so that a list of values can be read by recursion on the bytes left.

`Reader.list`, `Reader.members` and `Reader.tagged` read a list, an object and an alternative by
its name.  `Record` describes a structure by its fields and reads it from an object or from a list
of the values in order; a field may have several names, may not come twice, and may be left out if
it has a value of its own.
-/

namespace Sluice.Json

/-- A reading of a value of one type. -/
structure Reader (α : Type) where
  /-- The value at the front of a text. -/
  read : List UInt8 → Outcome α
  /-- A value takes at least one byte. -/
  shortens : ∀ {s t : List UInt8} {a : α}, read s = .ok (a, t) → t.length < s.length

/-! ## Changing what is read -/

/-- The values read, changed by a function. -/
def Reader.map {α β : Type} (f : α → β) (r : Reader α) : Reader β where
  read s :=
    match r.read s with
    | .ok (a, t) => .ok (f a, t)
    | .error e => .error e
  shortens h := by
    split at h
    · rename_i hr
      cases h
      exact r.shortens hr
    · cases h

/-- The values that a check lets through; a refusal stands right after the value. -/
def Reader.accept {α β : Type} (f : α → Except Cause β) (r : Reader α) : Reader β where
  read s :=
    match r.read s with
    | .ok (a, t) =>
      match f a with
      | .ok b => .ok (b, t)
      | .error c => .error (.here c t)
    | .error e => .error e
  shortens h := by
    split at h
    · rename_i hr
      split at h
      · cases h
        exact r.shortens hr
      · cases h
    · cases h

/-- The values that a check lets through; a refusal is placed by the list or object around it. -/
def Reader.acceptWithin {α β : Type} (f : α → Except Cause β) (r : Reader α) : Reader β where
  read s :=
    match r.read s with
    | .ok (a, t) =>
      match f a with
      | .ok b => .ok (b, t)
      | .error c => .error (.within c t)
    | .error e => .error e
  shortens h := by
    split at h
    · rename_i hr
      split at h
      · cases h
        exact r.shortens hr
      · cases h
    · cases h

/-- What a reading makes of the first byte after the blanks and the bytes that follow. -/
def atFirst {α : Type} (f : UInt8 → List UInt8 → Outcome α) (s : List UInt8) : Outcome α :=
  match skipBlank s with
  | [] => .error (.atNext .endInValue [])
  | b :: t => f b t

theorem atFirst_shortens {α : Type} {f : UInt8 → List UInt8 → Outcome α}
    (hf : ∀ {b : UInt8} {s t : List UInt8} {a : α}, f b s = .ok (a, t) → t.length ≤ s.length)
    {s t : List UInt8} {a : α} (h : atFirst f s = .ok (a, t)) : t.length < s.length := by
  have hs := skipBlank_length s
  unfold atFirst at h
  split at h
  · cases h
  · rename_i b u hu
    rw [hu, List.length_cons] at hs
    have := hf h
    omega

/-- A reading that starts at the first byte after the blanks, with a reading for that byte. -/
def Reader.atByte {α : Type} (f : UInt8 → List UInt8 → Outcome α)
    (hf : ∀ {b : UInt8} {s t : List UInt8} {a : α}, f b s = .ok (a, t) → t.length ≤ s.length) :
    Reader α where
  read := atFirst f
  shortens := atFirst_shortens hf

/-! ## Values that do not fit -/

/-- The failure of a value that starts with this byte where another type was expected.  A word, a
number or a string is read first. -/
def mismatch (expected : String) (b : UInt8) (s : List UInt8) : Failure :=
  let ofWord (w : List UInt8) (shape : Shape) : Failure :=
    match word w s with
    | .ok t => .here (.typeMismatch shape expected) t
    | .error e => e
  let ofNumber (o : Outcome Number) : Failure :=
    match o with
    | .ok (n, t) => .here (.typeMismatch n.shape expected) t
    | .error e => e
  if b = 0x6E then ofWord [0x75, 0x6C, 0x6C] .null
  else if b = 0x74 then ofWord [0x72, 0x75, 0x65] (.boolean true)
  else if b = 0x66 then ofWord [0x61, 0x6C, 0x73, 0x65] (.boolean false)
  else if b = 0x2D then ofNumber (number false s)
  else if isDigit b then ofNumber (number true (b :: s))
  else if b = 0x22 then
    match string s with
    | .ok (x, t) => .here (.typeMismatch (.string x) expected) t
    | .error e => e
  else if b = 0x5B then .here (.typeMismatch .list expected) (b :: s)
  else if b = 0x7B then .here (.typeMismatch .object expected) (b :: s)
  else .atNext .valueDue (b :: s)

/-! ## Plain values -/

/-- A string; `expected` names it where another type stands. -/
def Reader.stringAs (expected : String) : Reader String :=
  .atByte (fun b s => if b = 0x22 then string s else .error (mismatch expected b s)) fun h => by
    split at h
    · exact Nat.le_of_lt (string_shortens h)
    · cases h

def Reader.string : Reader String := .stringAs "a string"

def Reader.boolean : Reader Bool :=
  .atByte
    (fun b s =>
      if b = 0x74 then (word [0x72, 0x75, 0x65] s).map (true, ·)
      else if b = 0x66 then (word [0x61, 0x6C, 0x73, 0x65] s).map (false, ·)
      else .error (mismatch "a boolean" b s))
    fun {b s t a} h => by
      have key {w : List UInt8} {v : Bool} (h : (word w s).map (v, ·) = .ok (a, t)) :
          t.length ≤ s.length := by
        cases hw : word w s with
        | error e => rw [hw] at h; cases h
        | ok u =>
          rw [hw] at h
          cases h
          exact word_length hw
      split at h
      · exact key h
      · split at h
        · exact key h
        · cases h

/-- The word `null`; `expected` names it where another type stands. -/
def Reader.null (expected : String) : Reader Unit :=
  .atByte
    (fun b s =>
      if b = 0x6E then (word [0x75, 0x6C, 0x6C] s).map ((), ·) else .error (mismatch expected b s))
    fun {b s t a} h => by
      split at h
      · cases hw : word [0x75, 0x6C, 0x6C] s with
        | error e => rw [hw] at h; cases h
        | ok u =>
          rw [hw] at h
          cases h
          exact word_length hw
      · cases h

/-- A number that starts with this byte. -/
def numberAt (expected : String) (b : UInt8) (s : List UInt8) : Outcome Number :=
  if b = 0x2D then Json.number false s
  else if isDigit b then Json.number true (b :: s)
  else .error (mismatch expected b s)

theorem numberAt_length {expected : String} {b : UInt8} {s t : List UInt8} {a : Number}
    (h : numberAt expected b s = .ok (a, t)) : t.length ≤ s.length := by
  unfold numberAt at h
  split at h
  · exact Nat.le_of_lt (number_shortens h)
  · split at h
    · have := number_shortens h
      simp only [List.length_cons] at this
      omega
    · cases h

/-- A whole number from `least` to `most`; `expected` names the range. -/
def Reader.whole (least most : Int) (expected : String) : Reader Int :=
  .accept
    (fun
      | .whole n =>
        if least ≤ n ∧ n ≤ most then .ok n else .error (.outOfRange (.integer n) expected)
      | .fraction t => .error (.typeMismatch (.fraction t) expected))
    (.atByte (numberAt expected) numberAt_length)

/-- A whole number of 32 bits with a sign. -/
def Reader.int32 : Reader Int32 :=
  (Reader.whole Int32.minValue.toInt Int32.maxValue.toInt "i32").map Int32.ofInt

/-- A natural number of 32 bits. -/
def Reader.uint32 : Reader UInt32 :=
  (Reader.whole 0 (UInt32.size - 1 : Nat) "u32").map fun n => UInt32.ofNat n.toNat

/-- A natural number of 64 bits. -/
def Reader.uint64 : Reader UInt64 :=
  (Reader.whole 0 (UInt64.size - 1 : Nat) "u64").map fun n => UInt64.ofNat n.toNat

/-- A value, or `null` for none. -/
def Reader.orNull {α : Type} (r : Reader α) : Reader (Option α) where
  read s :=
    match skipBlank s with
    | 0x6E :: t => (word [0x75, 0x6C, 0x6C] t).map (none, ·)
    | _ => (r.map some).read s
  shortens {s t a} h := by
    have hs := skipBlank_length s
    split at h
    · rename_i u hu
      rw [hu, List.length_cons] at hs
      cases hw : word [0x75, 0x6C, 0x6C] u with
      | error e => rw [hw] at h; cases h
      | ok v =>
        rw [hw] at h
        cases h
        have := word_length hw
        omega
    · exact (r.map some).shortens h

/-- Any value, passed over. -/
def Reader.anything : Reader Unit where
  read s := (skip .value [] s).map ((), ·)
  shortens {s t a} h := by
    cases hs : skip .value [] s with
    | error e => rw [hs] at h; cases h
    | ok u =>
      rw [hs] at h
      cases h
      exact (skip_length hs).2 rfl

/-! ## Lists -/

/-- The bytes from the next element of a list on, or after the list if it has no more. -/
def nextElement (first : Bool) (s : List UInt8) : Except Failure (List UInt8 ⊕ List UInt8) :=
  match skipBlank s with
  | [] => .error (.atNext .endInList [])
  | b :: t =>
    if b = 0x5D then .ok (.inr t)
    else if first then .ok (.inl (b :: t))
    else if b = 0x2C then
      match skipBlank t with
      | [] => .error (.atNext .endInValue [])
      | c :: u => if c = 0x5D then .error (.atNext .trailingComma (c :: u)) else .ok (.inl (c :: u))
    else .error (.atNext .listGoesOn (b :: t))

theorem nextElement_inl {first : Bool} {s t : List UInt8} (h : nextElement first s = .ok (.inl t)) :
    t.length ≤ s.length := by
  have hs := skipBlank_length s
  unfold nextElement at h
  split at h
  · cases h
  · rename_i b u hu
    rw [hu, List.length_cons] at hs
    split at h
    · cases h
    · split at h
      · cases h
        simpa using hs
      · split at h
        · have ht := skipBlank_length u
          split at h
          · cases h
          · rename_i c v hv
            rw [hv, List.length_cons] at ht
            split at h
            · cases h
            · cases h
              simp only [List.length_cons]
              omega
        · cases h

theorem nextElement_inr {first : Bool} {s t : List UInt8} (h : nextElement first s = .ok (.inr t)) :
    t.length < s.length := by
  have hs := skipBlank_length s
  unfold nextElement at h
  split at h
  · cases h
  · rename_i b u hu
    rw [hu, List.length_cons] at hs
    split at h
    · cases h
      omega
    · split at h
      · cases h
      · split at h
        · split at h
          · cases h
          · split at h <;> cases h
        · cases h

/-- The bytes where a failed list is looked for to end. -/
def closeList (s : List UInt8) : List UInt8 :=
  match skipBlank s with
  | 0x5D :: t => t
  | 0x2C :: t => skipBlank t
  | t => t

/-- The elements from here on, after those of `read`, which stand last first. -/
def elements {α : Type} (r : Reader α) (first : Bool) (read : List α) (s : List UInt8) :
    Outcome (List α) :=
  match hn : nextElement first s with
  | .error e => .error e
  | .ok (.inr t) => .ok (read.reverse, t)
  | .ok (.inl t) =>
    match hr : r.read t with
    | .error e => .error e
    | .ok (a, u) =>
      have := nextElement_inl hn
      have := r.shortens hr
      elements r false (a :: read) u
termination_by s.length

theorem elements_shortens {α : Type} {r : Reader α} {first : Bool} {read l : List α}
    {s t : List UInt8} (h : elements r first read s = .ok (l, t)) : t.length < s.length := by
  fun_induction elements r first read s with
  | case1 => cases h
  | case2 _ _ _ _ hn =>
    cases h
    exact nextElement_inr hn
  | case3 => cases h
  | case4 _ _ _ _ hn _ _ hr _ _ ih =>
    have := ih h
    omega

/-- A list of values. -/
def Reader.list {α : Type} (r : Reader α) : Reader (List α) :=
  .atByte
    (fun b s =>
      if b = 0x5B then (elements r true [] s).mapError (Failure.settle closeList)
      else .error (mismatch "a sequence" b s))
    fun {b s t a} h => by
      split at h
      · cases he : elements r true [] s with
        | error e => rw [he] at h; cases h
        | ok v =>
          rw [he] at h
          cases h
          exact Nat.le_of_lt (elements_shortens he)
      · cases h

/-! ## Objects -/

/-- The bytes after the opening quote of the next key of an object, or after the object if it has no
more. -/
def nextKey (first : Bool) (s : List UInt8) : Except Failure (List UInt8 ⊕ List UInt8) :=
  match skipBlank s with
  | [] => .error (.atNext .endInObject [])
  | b :: t =>
    if b = 0x7D then .ok (.inr t)
    else if first then
      if b = 0x22 then .ok (.inl t) else .error (.atNext .keyNoString (b :: t))
    else if b = 0x2C then
      match skipBlank t with
      | [] => .error (.atNext .endInValue [])
      | c :: u =>
        if c = 0x22 then .ok (.inl u)
        else if c = 0x7D then .error (.atNext .trailingComma (c :: u))
        else .error (.atNext .keyNoString (c :: u))
    else .error (.atNext .objectGoesOn (b :: t))

theorem nextKey_length {first : Bool} {s t : List UInt8}
    (h : nextKey first s = .ok (.inl t) ∨ nextKey first s = .ok (.inr t)) :
    t.length < s.length := by
  have hs := skipBlank_length s
  unfold nextKey at h
  split at h
  · simp at h
  · rename_i b u hu
    rw [hu, List.length_cons] at hs
    split at h
    · simp only [reduceCtorEq, false_or, Except.ok.injEq, Sum.inr.injEq] at h
      subst h
      omega
    · split at h
      · split at h
        · simp only [Except.ok.injEq, Sum.inl.injEq, reduceCtorEq, or_false] at h
          subst h
          omega
        · simp at h
      · split at h
        · have ht := skipBlank_length u
          split at h
          · simp at h
          · rename_i c v hv
            rw [hv, List.length_cons] at ht
            split at h
            · simp only [Except.ok.injEq, Sum.inl.injEq, reduceCtorEq, or_false] at h
              subst h
              omega
            · split at h <;> simp at h
        · simp at h

/-- The bytes after the colon of a member. -/
def colon (s : List UInt8) : Except Failure (List UInt8) :=
  match skipBlank s with
  | [] => .error (.atNext .endInObject [])
  | b :: t => if b = 0x3A then .ok t else .error (.atNext .colonDue (b :: t))

theorem colon_length {s t : List UInt8} (h : colon s = .ok t) : t.length ≤ s.length := by
  have hs := skipBlank_length s
  unfold colon at h
  split at h
  · cases h
  · rename_i b u hu
    rw [hu, List.length_cons] at hs
    split at h
    · cases h
      omega
    · cases h

/-- The bytes where a failed object is looked for to end. -/
def closeObject (s : List UInt8) : List UInt8 :=
  match skipBlank s with
  | 0x7D :: t => t
  | t => t

/-- How the members of an object are taken in. -/
structure Members (σ : Type) where
  /-- How the value of a key is read into what was read before, or why the key is refused. -/
  member : σ → String → Except Cause (Reader σ)

/-- The members from here on, read into `read`. -/
def Members.from {σ : Type} (m : Members σ) (first : Bool) (read : σ) (s : List UInt8) :
    Outcome σ :=
  match hk : nextKey first s with
  | .error e => .error e
  | .ok (.inr t) => .ok (read, t)
  | .ok (.inl t) =>
    match hx : Json.string t with
    | .error e => .error e
    | .ok (key, u) =>
      match m.member read key with
      | .error c => .error (.within c u)
      | .ok r =>
        match hc : colon u with
        | .error e => .error e
        | .ok v =>
          match hr : r.read v with
          | .error e => .error e
          | .ok (read, w) =>
            have := nextKey_length (.inl hk)
            have := string_shortens hx
            have := colon_length hc
            have := r.shortens hr
            m.from false read w
termination_by s.length

theorem Members.from_shortens {σ : Type} {m : Members σ} {first : Bool} {read a : σ}
    {s t : List UInt8} (h : m.from first read s = .ok (a, t)) : t.length < s.length := by
  fun_induction Members.from m first read s with
  | case1 => cases h
  | case2 _ _ _ _ hk =>
    cases h
    exact nextKey_length (.inr hk)
  | case3 => cases h
  | case4 => cases h
  | case5 => cases h
  | case6 => cases h
  | case7 =>
    rename_i ih
    have := ih h
    omega

/-- The value of all members of an object, once its end is found.  A cause that concerns the whole
object stands after it. -/
def Members.whole {σ α : Type} (m : Members σ) (start : σ) (finish : σ → Except Cause α)
    (s : List UInt8) : Outcome α :=
  match m.from true start s with
  | .error e => .error (e.settle closeObject)
  | .ok (read, t) =>
    match finish read with
    | .ok a => .ok (a, t)
    | .error c => .error (.here c t)

theorem Members.whole_length {σ α : Type} {m : Members σ} {start : σ}
    {finish : σ → Except Cause α} {s t : List UInt8} {a : α}
    (h : m.whole start finish s = .ok (a, t)) : t.length ≤ s.length := by
  unfold Members.whole at h
  split at h
  · cases h
  · rename_i hm
    split at h
    · cases h
      exact Nat.le_of_lt (Members.from_shortens hm)
    · cases h

/-- An object whose members are read into a value; `expected` names it where another type stands. -/
def Reader.members {σ α : Type} (expected : String) (m : Members σ) (start : σ)
    (finish : σ → Except Cause α) : Reader α :=
  .atByte
    (fun b s => if b = 0x7B then m.whole start finish s else .error (mismatch expected b s))
    fun h => by
      split at h
      · exact Members.whole_length h
      · cases h

/-! ## Alternatives by name -/

/-- One of several kinds of value, told apart by its name. -/
structure Alternative (α : Type) where
  /-- Its names, the one that is written first. -/
  names : List String
  /-- The value of the name alone, if the name alone is a value. -/
  bare : Option α
  /-- The value under the name. -/
  content : Reader α

/-- The alternative of a name, refused where the name ends. -/
def alternativeOf {α : Type} (as : List (Alternative α)) (name : String) (s : List UInt8) :
    Except Failure (Alternative α) :=
  match as.find? (·.names.contains name) with
  | some a => .ok a
  | none => .error (.here (.unknownName name (as.flatMap (·.names))) s)

/-- The value of an alternative after its name, up to the end of its object. -/
def taggedContent {α : Type} (a : Alternative α) (s : List UInt8) : Outcome α :=
  match colon s with
  | .error e => .error e
  | .ok t =>
    match a.content.read t with
    | .error e => .error e
    | .ok (x, u) =>
      match skipBlank u with
      | [] => .error (.here .endInObject [])
      | b :: v => if b = 0x7D then .ok (x, v) else .error (.here .valueDue (b :: v))

/-- The value of an object with one member, after its opening bracket. -/
def taggedMember {α : Type} (as : List (Alternative α)) (s : List UInt8) : Outcome α :=
  match skipBlank s with
  | [] => .error (.atNext .endInObject [])
  | b :: t =>
    if b = 0x22 then
      match Json.string t with
      | .error e => .error e
      | .ok (name, u) =>
        match alternativeOf as name u with
        | .error e => .error e
        | .ok a => taggedContent a u
    else if b = 0x7D then .error (.atNext .valueDue (b :: t))
    else .error (.atNext .keyNoString (b :: t))

/-- The value of a name alone, after its opening quote. -/
def bareName {α : Type} (as : List (Alternative α)) (s : List UInt8) : Outcome α :=
  match Json.string s with
  | .error e => .error e
  | .ok (name, t) =>
    match alternativeOf as name t with
    | .error e => .error e
    | .ok a =>
      match a.bare with
      | some x => .ok (x, t)
      | none => .error (.within (.typeMismatch .bareName "newtype variant") t)

theorem taggedContent_length {α : Type} {a : Alternative α} {s t : List UInt8} {x : α}
    (h : taggedContent a s = .ok (x, t)) : t.length ≤ s.length := by
  unfold taggedContent at h
  split at h
  · cases h
  · rename_i hc
    have hu := colon_length hc
    split at h
    · cases h
    · rename_i y u hr
      have hv := a.content.shortens hr
      have hw := skipBlank_length u
      split at h
      · cases h
      · rename_i hb
        rw [hb, List.length_cons] at hw
        split at h
        · cases h
          omega
        · cases h

theorem taggedMember_length {α : Type} {as : List (Alternative α)} {s t : List UInt8} {a : α}
    (h : taggedMember as s = .ok (a, t)) : t.length ≤ s.length := by
  have hs := skipBlank_length s
  unfold taggedMember at h
  split at h
  · cases h
  · rename_i b u hu
    rw [hu, List.length_cons] at hs
    split at h
    · split at h
      · cases h
      · rename_i hx
        have hv := string_shortens hx
        split at h
        · cases h
        · have := taggedContent_length h
          omega
    · split at h <;> cases h

theorem bareName_length {α : Type} {as : List (Alternative α)} {s t : List UInt8} {a : α}
    (h : bareName as s = .ok (a, t)) : t.length ≤ s.length := by
  unfold bareName at h
  split at h
  · cases h
  · rename_i hx
    have hv := string_shortens hx
    split at h
    · cases h
    · split at h
      · cases h
        omega
      · cases h

/-- An alternative: an object with its name as the only key, or the name alone. -/
def Reader.tagged {α : Type} (as : List (Alternative α)) : Reader α :=
  .atByte
    (fun b s =>
      if b = 0x7B then taggedMember as s
      else if b = 0x22 then bareName as s
      else .error (.atNext .valueDue (b :: s)))
    fun h => by
      split at h
      · exact taggedMember_length h
      · split at h
        · exact bareName_length h
        · cases h

/-- One of some values by its name, which stands alone or is the key of `null`. -/
def Reader.oneOf {α : Type} (all : List α) (name : α → String) : Reader α :=
  .tagged (all.map fun a => ⟨[name a], some a, (Reader.null "unit").map fun _ => a⟩)

/-! ## Records -/

/-- What it means for a field that it is left out. -/
inductive Absence where
  /-- It must be given. -/
  | refused
  /-- It keeps its own value in an object, but a list of values must have it. -/
  | keptInObjects
  /-- It keeps its own value. -/
  | kept
deriving DecidableEq, Repr

/-- A field of a record. -/
structure Field (α : Type) where
  /-- Its names, the one that is written first. -/
  name : String
  /-- Its other names. -/
  aliases : List String
  /-- What it means that it is left out. -/
  absence : Absence
  /-- A value of the field, as the change it makes to the record. -/
  value : Reader (α → α)

/-- A field with one name that must be given. -/
def Field.needed {α β : Type} (name : String) (r : Reader β) (set : β → α → α) : Field α :=
  ⟨name, [], .refused, r.map set⟩

/-- A field with one name that keeps its own value when left out. -/
def Field.defaulted {α β : Type} (name : String) (r : Reader β) (set : β → α → α) : Field α :=
  ⟨name, [], .kept, r.map set⟩

/-- A field that an object may leave out and a list may not. -/
def Field.optional {α β : Type} (name : String) (r : Reader β) (set : β → α → α) : Field α :=
  ⟨name, [], .keptInObjects, r.map set⟩

/-- A field with one more name. -/
def Field.alsoNamed {α : Type} (f : Field α) (name : String) : Field α :=
  { f with aliases := f.aliases ++ [name] }

/-- A record: its name in messages, its fields in order, and the record of fields left out. -/
structure Record (α : Type) where
  title : String
  /-- The record before any field is read. -/
  blank : α
  fields : List (Field α)

/-- A record partly read: the fields read so far and the record they make. -/
structure Partial (α : Type) where
  /-- The names of the fields read. -/
  seen : List String
  /-- The record so far. -/
  value : α

/-- The field of a key. -/
def Record.field? {α : Type} (r : Record α) (key : String) : Option (Field α) :=
  r.fields.find? fun f => f.name == key || f.aliases.contains key

/-- The members of a record given as an object. -/
def Record.asObject {α : Type} (r : Record α) : Members (Partial α) where
  member p key :=
    match r.field? key with
    | none => .ok (Reader.anything.map fun _ => p)
    | some f =>
      if p.seen.contains f.name then .error (.twice f.name)
      else .ok (f.value.map fun set => ⟨f.name :: p.seen, set p.value⟩)

/-- The record of the fields read, if none is missing. -/
def Record.finish {α : Type} (r : Record α) (p : Partial α) : Except Cause α :=
  match r.fields.find? fun f => f.absence == .refused && !p.seen.contains f.name with
  | some f => .error (.missing f.name)
  | none => .ok p.value

/-- What a list of values of a record is called. -/
def Record.titleAsList {α : Type} (r : Record α) : String :=
  let n := r.fields.length
  r.title ++ " with " ++ toString n ++ (if n = 1 then " element" else " elements")

/-- The end of a list of values that has all its fields. -/
def endOfList (s : List UInt8) : Except Failure (List UInt8) :=
  match skipBlank s with
  | [] => .error (.atNext .endInList [])
  | b :: t =>
    if b = 0x5D then .ok t
    else if b = 0x2C then
      match skipBlank t with
      | [] => .error (.atNext .trailing [])
      | c :: u => .error (.atNext (if c = 0x5D then .trailingComma else .trailing) (c :: u))
    else .error (.atNext .trailing (b :: t))

/-- The fields of a record given as a list, after `taken` fields, up to the end of the list. -/
def Record.fromList {α : Type} (r : Record α) (taken : Nat) (value : α) :
    List (Field α) → List UInt8 → Outcome α
  | [], s => (endOfList s).map (value, ·)
  | f :: fs, s =>
    match nextElement (taken == 0) s with
    | .error e => .error e
    | .ok (.inr t) =>
      match (f :: fs).findIdx? (·.absence != .kept) with
      | some i => .error (.here (.tooShort (taken + i) r.titleAsList) t)
      | none => .ok (value, t)
    | .ok (.inl t) =>
      match f.value.read t with
      | .error e => .error (e.settle closeList)
      | .ok (set, u) => r.fromList (taken + 1) (set value) fs u

theorem endOfList_shortens {s t : List UInt8} (h : endOfList s = .ok t) : t.length < s.length := by
  have hs := skipBlank_length s
  unfold endOfList at h
  split at h
  · cases h
  · rename_i b u hu
    rw [hu, List.length_cons] at hs
    split at h
    · cases h
      omega
    · split at h
      · split at h <;> cases h
      · cases h

theorem Record.fromList_length {α : Type} {r : Record α} {n : Nat} {x a : α}
    {fs : List (Field α)} {s t : List UInt8} (h : r.fromList n x fs s = .ok (a, t)) :
    t.length ≤ s.length := by
  induction fs generalizing n x s with
  | nil =>
    unfold Record.fromList at h
    cases he : endOfList s with
    | error e => rw [he] at h; cases h
    | ok v =>
      rw [he] at h
      cases h
      exact Nat.le_of_lt (endOfList_shortens he)
  | cons f fs ih =>
    unfold Record.fromList at h
    split at h
    · cases h
    · rename_i hn
      split at h
      · cases h
      · cases h
        exact Nat.le_of_lt (nextElement_inr hn)
    · rename_i hn
      have := nextElement_inl hn
      split at h
      · cases h
      · rename_i hr
        have := f.value.shortens hr
        have := ih h
        omega

/-- A record, from an object or from a list. -/
def Record.reader {α : Type} (r : Record α) : Reader α :=
  .atByte
    (fun b s =>
      if b = 0x7B then r.asObject.whole ⟨[], r.blank⟩ r.finish s
      else if b = 0x5B then r.fromList 0 r.blank r.fields s
      else .error (mismatch r.title b s))
    fun h => by
      split at h
      · exact Members.whole_length h
      · split at h
        · exact Record.fromList_length h
        · cases h

/-! ## Whole texts -/

/-- The value of a whole text, with nothing but blanks after it. -/
def Reader.decode {α : Type} (r : Reader α) (text : List UInt8) : Except Refusal α :=
  match r.read text with
  | .error e => .error (e.refusal text)
  | .ok (a, s) =>
    match skipBlank s with
    | [] => .ok a
    | b :: t => .error ((Failure.atNext .trailing (b :: t)).refusal text)

end Sluice.Json
