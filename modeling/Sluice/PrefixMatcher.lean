import Sluice.Text.Utf8

/-!
# Longest matching prefix

A `PrefixMatcher` holds values under texts and finds, for another text, the longest of them that it
starts with, compared byte by byte.  The empty text matches nothing and is not held.

The texts are the paths of a `Trie` of bytes.  A trie is empty or one branch, with the branches
below it and the branches beside it; a branch may hold a value.  `put_fst` and `get?_put` say what
putting a value gives back and does to what is found under a path, and `count_put` how many values
there are then.
-/

namespace Sluice

/-! ## Tries -/

/-- Branches that stand beside each other. -/
inductive Trie (α : Type) where
  /-- No branch. -/
  | leaf
  /-- A branch for a byte, the value that ends there, and the branches below and beside it. -/
  | branch (byte : UInt8) (value : Option α) (below beside : Trie α)
deriving DecidableEq, Repr

namespace Trie

variable {α : Type}

/-- The trie of one path. -/
def single (value : α) : List UInt8 → Trie α
  | [] => .leaf
  | [b] => .branch b (some value) .leaf .leaf
  | b :: c :: r => .branch b none (single value (c :: r)) .leaf

/-- The value at the end of a path, and the trie with another value there. -/
def put (value : α) (path : List UInt8) : Trie α → Option α × Trie α
  | .leaf => (none, single value path)
  | .branch c v below beside =>
    match path with
    | [] => (none, .branch c v below beside)
    | b :: r =>
      if b = c then
        if r = [] then (v, .branch c (some value) below beside)
        else
          let further := put value r below
          (further.1, .branch c v further.2 beside)
      else
        let further := put value (b :: r) beside
        (further.1, .branch c v below further.2)

/-- The value at the end of a path. -/
def get? (path : List UInt8) : Trie α → Option α
  | .leaf => none
  | .branch c v below beside =>
    match path with
    | [] => none
    | b :: r =>
      if b = c then if r = [] then v else get? r below
      else get? (b :: r) beside

def count : Trie α → Nat
  | .leaf => 0
  | .branch _ v below beside => v.toList.length + below.count + beside.count

/-- The longest path to a value that these bytes start with, as its length and its value.  `depth`
bytes have been taken before these, and `best` is the longest path among them. -/
def longest (depth : Nat) (best : Option (Nat × α)) : List UInt8 → Trie α → Option (Nat × α)
  | _, .leaf => best
  | [], .branch _ _ _ _ => best
  | b :: r, .branch c v below beside =>
    if b = c then
      longest (depth + 1) (match v with | some x => some (depth + 1, x) | none => best) r below
    else longest depth best (b :: r) beside
termination_by structural _ t => t

theorem get?_nil (t : Trie α) : t.get? [] = none := by cases t <;> rfl

theorem get?_single (value : α) (path other : List UInt8) :
    (single value path).get? other = if path = other ∧ path ≠ [] then some value else none := by
  fun_induction single value path generalizing other with
  | case1 => simp [get?]
  | case2 b =>
    match other with
    | [] => simp [get?]
    | d :: s =>
      by_cases h : d = b
      · subst h
        by_cases hs : s = [] <;> simp [get?, hs, eq_comm]
      · simp [get?, h, Ne.symm h]
  | case3 b c r ih =>
    match other with
    | [] => simp [get?]
    | d :: s =>
      by_cases h : d = b
      · subst h
        by_cases hs : s = []
        · simp [get?, hs]
        · simp [get?, hs, ih]
      · simp [get?, h, Ne.symm h]

theorem put_fst (value : α) (path : List UInt8) (t : Trie α) :
    (t.put value path).1 = t.get? path := by
  induction t generalizing path with
  | leaf => rfl
  | branch c v below beside ihBelow ihBeside =>
    match path with
    | [] => rfl
    | b :: r =>
      by_cases hb : b = c
      · by_cases hr : r = []
        · simp [put, get?, hb, hr]
        · simp [put, get?, hb, hr, ihBelow]
      · simp [put, get?, hb, ihBeside]

theorem get?_put (value : α) (path other : List UInt8) (t : Trie α) :
    (t.put value path).2.get? other =
      if path = other ∧ path ≠ [] then some value else t.get? other := by
  induction t generalizing path other with
  | leaf => simp [put, get?_single, get?]
  | branch c v below beside ihBelow ihBeside =>
    match path, other with
    | [], other => simp [put]
    | b :: r, [] => simp [put, get?_nil]
    | b :: r, d :: s =>
      by_cases hb : b = c
      · subst hb
        by_cases hr : r = []
        · subst hr
          by_cases hd : d = b
          · subst hd
            by_cases hs : s = [] <;> simp [put, get?, hs, eq_comm]
          · simp [put, get?, hd, Ne.symm hd]
        · by_cases hd : d = b
          · subst hd
            by_cases hs : s = []
            · simp [put, get?, hs, hr]
            · simp [put, get?, hs, hr, ihBelow]
          · simp [put, get?, hr, hd, Ne.symm hd]
      · by_cases hd : d = c
        · subst hd
          simp [put, get?, hb]
        · simp [put, get?, hb, hd, ihBeside]

theorem count_single (value : α) {path : List UInt8} (h : path ≠ []) :
    (single value path).count = 1 := by
  fun_induction single value path with
  | case1 => exact absurd rfl h
  | case2 => simp [count]
  | case3 b c r ih => simp [count, ih (List.cons_ne_nil c r)]

theorem count_put (value : α) {path : List UInt8} (h : path ≠ []) (t : Trie α) :
    (t.put value path).2.count = t.count + if (t.get? path).isNone then 1 else 0 := by
  induction t generalizing path with
  | leaf => simp [put, count_single value h, count, get?]
  | branch c v below beside ihBelow ihBeside =>
    match path with
    | [] => exact absurd rfl h
    | b :: r =>
      by_cases hb : b = c
      · subst hb
        by_cases hr : r = []
        · cases v with
          | none =>
            simp only [put, count, get?, hr, if_true, Option.isNone_none, Option.toList_none,
              Option.toList_some, List.length_nil, List.length_singleton]
            omega
          | some _ => simp [put, count, get?, hr]
        · simp only [put, count, get?, hr, if_true, if_false, ihBelow hr]
          omega
      · simp only [put, count, get?, hb, if_false, ihBeside h]
        omega

end Trie

/-! ## Matchers -/

/-- Values under texts. -/
structure PrefixMatcher (α : Type) where
  /-- The texts, as paths of bytes. -/
  root : Trie α
  size : Nat
  size_eq : size = root.count
deriving DecidableEq

namespace PrefixMatcher

variable {α : Type}

def empty : PrefixMatcher α := ⟨.leaf, 0, rfl⟩

def isEmpty (m : PrefixMatcher α) : Bool := m.size == 0

/-- The value under exactly this text. -/
def get? (m : PrefixMatcher α) (s : String) : Option α := m.root.get? (Text.bytes s)

/-- The value that was under a text, and the matcher with another value there.  The empty text is
ignored. -/
def put (m : PrefixMatcher α) (s : String) (value : α) : Option α × PrefixMatcher α :=
  let path := Text.bytes s
  if h : path = [] then (none, m)
  else
    let further := m.root.put value path
    (further.1, ⟨further.2, m.size + if further.1.isNone then 1 else 0, by
      rw [Trie.count_put value h, Trie.put_fst, m.size_eq]⟩)

/-- The matcher with a value under a text, in place of any value there. -/
def insert (m : PrefixMatcher α) (s : String) (value : α) : PrefixMatcher α := (m.put s value).2

/-- The matcher of some texts; of several values under one text the last stays. -/
def ofList (l : List (String × α)) : PrefixMatcher α :=
  l.foldl (fun m p => m.insert p.1 p.2) empty

/-- The longest text that `s` starts with, as its number of bytes and its value. -/
def longest? (m : PrefixMatcher α) (s : String) : Option (Nat × α) :=
  m.root.longest 0 none (Text.bytes s)

/-- The longest text that `s` starts with, and its value. -/
def find? (m : PrefixMatcher α) (s : String) : Option (String × α) :=
  (m.longest? s).bind fun (n, value) =>
    (Text.ofBytes? ((Text.bytes s).take n)).map fun found => (found, value)

/-- Some text starts `s`. -/
def hasPrefixOf (m : PrefixMatcher α) (s : String) : Bool := (m.find? s).isSome

end PrefixMatcher

end Sluice
