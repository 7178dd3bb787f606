/-!
# Trees of settings

Settings are given in layers, and every layer is a tree of values.  A value knows where it was given
(`Source`), so that whoever does not like it can be told.

`Tree.laidOver` lays a value over another: tables are merged member by member, and anything else
takes the place of what was there.  `Tree.put` lays a value over the place that a path leads to;
what stands in the way of the path is replaced.  A path leads nowhere if it counts back past the
first item of a list, or asks for more items than a list can have.
-/

namespace Sluice.Settings

/-! ## Values -/

/-- Where a value was given. -/
inductive Source where
  /-- Nowhere: it holds unless another is given, or it only makes room for others. -/
  | builtIn
  | file (path : String)
  | environment
deriving DecidableEq, Repr

inductive Scalar where
  | nothing
  | boolean (value : Bool)
  | integer (value : Int64)
  /-- A number that need not be whole. -/
  | fraction (value : Float)
  | text (value : String)

/-- A value of settings. -/
inductive Tree where
  | scalar (value : Scalar) (source : Source)
  | list (items : List Tree) (source : Source)
  /-- A table, its members by their keys. -/
  | table (members : List (String × Tree)) (source : Source)

/-- A place in a tree. -/
inductive Step where
  /-- The member of a table. -/
  | key (name : String)
  /-- The item of a list, counted from zero. -/
  | index (n : Nat)
  /-- The item of a list, counted back from its end; the last one is the first. -/
  | fromEnd (n : Nat)
deriving DecidableEq, Repr

/-- The way to a place in a tree. -/
abbrev Path := List Step

/-! ## Members -/

/-- Members with one of them set. -/
def setMember (key : String) (v : Tree) : List (String × Tree) → List (String × Tree)
  | [] => [(key, v)]
  | (k, w) :: r => if k = key then (key, v) :: r else (k, w) :: setMember key v r

theorem lookup_setMember_self (key : String) (v : Tree) (l : List (String × Tree)) :
    (setMember key v l).lookup key = some v := by
  induction l with
  | nil => simp [setMember]
  | cons m r ih =>
    obtain ⟨k, w⟩ := m
    by_cases h : k = key
    · simp [setMember, h]
    · simp [setMember, h, List.lookup_cons, beq_eq_false_iff_ne.mpr (Ne.symm h), ih]

theorem lookup_setMember_of_ne {key other : String} (h : other ≠ key) (v : Tree)
    (l : List (String × Tree)) : (setMember key v l).lookup other = l.lookup other := by
  induction l with
  | nil => simp [setMember, List.lookup_cons, beq_eq_false_iff_ne.mpr h]
  | cons m r ih =>
    obtain ⟨k, w⟩ := m
    by_cases hk : k = key
    · simp [setMember, hk, List.lookup_cons, beq_eq_false_iff_ne.mpr h]
    · simp [setMember, hk, List.lookup_cons, ih]

namespace Tree

/-- A table without members that was given nowhere. -/
def empty : Tree := .table [] .builtIn

/-- The member of a table. -/
def member? (key : String) : Tree → Option Tree
  | .table members _ => members.lookup key
  | _ => none

/-- A table with a member set; a value that is no table is replaced by one. -/
def withMember (t : Tree) (key : String) (v : Tree) : Tree :=
  match t with
  | .table members s => .table (setMember key v members) s
  | _ => .table [(key, v)] .builtIn

theorem member?_withMember_self (t : Tree) (key : String) (v : Tree) :
    (t.withMember key v).member? key = some v := by
  cases t with
  | table m s => exact lookup_setMember_self key v m
  | scalar | list => simp [withMember, member?]

theorem member?_withMember_of_ne {key other : String} (h : other ≠ key) (t v : Tree) :
    (t.withMember key v).member? other = t.member? other := by
  cases t with
  | table m s => exact lookup_setMember_of_ne h v m
  | scalar | list => simp [withMember, member?, List.lookup_cons, beq_eq_false_iff_ne.mpr h]

/-! ## Layers -/

mutual

/-- A value over another, or in a place that was empty. -/
def laidOver : Tree → Option Tree → Tree
  | .table members _, below => membersLaidOver members (below.getD empty)
  | .list items s, _ => .list items s
  | .scalar v s, _ => .scalar v s

/-- Members over a value, one after the other. -/
def membersLaidOver : List (String × Tree) → Tree → Tree
  | [], below => below
  | (key, v) :: r, below =>
    membersLaidOver r (below.withMember key (v.laidOver (below.member? key)))

end

/-- The items of a list; a value that is no list has none. -/
def items : Tree → List Tree
  | .list l _ => l
  | _ => []

/-- Where a list was given; a value that is no list is replaced by one that was given nowhere. -/
def listSource : Tree → Source
  | .list _ s => s
  | _ => .builtIn

/-- A list with an item set, and places without values before it if it is shorter. -/
def withItem (t : Tree) (n : Nat) (v : Tree) : Tree :=
  let room := List.replicate (n + 1 - t.items.length) (.scalar .nothing .builtIn)
  .list ((t.items ++ room).set n v) t.listSource

/-- The most items that a list can have. -/
def mostItems : Nat := 0x1000000

/-- A value over the place that a path leads to, if it leads anywhere.  An item of a list is not
merged but replaced. -/
def put (v : Tree) : Path → Tree → Option Tree
  | [], _ => some v
  | [.key k], t => some (t.withMember k (v.laidOver (t.member? k)))
  | .key k :: path, t => (put v path ((t.member? k).getD empty)).map (t.withMember k)
  | .index n :: path, t =>
    if n < mostItems then (put v path (t.items[n]?.getD empty)).map (t.withItem n) else none
  | .fromEnd n :: path, t =>
    if n ≤ t.items.length then
      let i := t.items.length - n
      (put v path (t.items[i]?.getD empty)).map (t.withItem i)
    else none

end Tree

end Sluice.Settings
