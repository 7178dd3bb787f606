import Sluice.DenyList.Basic
import Sluice.Dialogue
import Sluice.Fault

/-!
# Loading a deny-list page by page

A store serves its rules in pages: up to a limit of rules whose texts come after a cursor, in
ascending order; an empty page is the end.  A `DenyLoad` is a load under way: the cursor of the next
page and the rules so far.  `DenyLoad.next` takes one page in.  A page whose last text does not come
after the cursor is a fault, since the store would go on forever.

Texts are compared character by character, which is the order of their bytes in UTF-8.
-/

namespace Sluice

/-- A load under way. -/
structure DenyLoad where
  /-- The last text read; empty before the first page. -/
  cursor : String
  /-- The rules read. -/
  list : DenyList

namespace DenyLoad

/-- A load before its first page. -/
def start : DenyLoad := ⟨"", .empty⟩

/-- What follows on a page. -/
inductive Next where
  | onward (load : DenyLoad)
  | complete (list : DenyList)
  | failed (fault : Fault)

/-- The fault of a page that does not come after the cursor. -/
def stuck (cursor : String) : Fault :=
  .internal ("deny-list store did not advance past cursor " ++ Text.quoted cursor)

/-- The list with the rules of a page. -/
def take (list : DenyList) (page : List DenyRule) : DenyList :=
  page.foldl (fun l r => l.insert r.text r.note) list

/-- The load after the answer to the request for its next page. -/
def next (load : DenyLoad) : Except Fault (List DenyRule) → Next
  | .error f => .failed f
  | .ok page =>
    match page.getLast? with
    | none => .complete load.list
    | some last =>
      if load.cursor ≠ "" ∧ last.text ≤ load.cursor then .failed (stuck load.cursor)
      else .onward ⟨last.text, take load.list page⟩

/-! ## From a store -/

/-- A request for a page. -/
structure PageRequest where
  /-- The most rules. -/
  limit : UInt32
  /-- The text after which they come. -/
  cursor : String
deriving DecidableEq, Repr

/-- Requests for pages and their answers. -/
abbrev store : Protocol where
  Question := PageRequest
  Answer _ := Except Fault (List DenyRule)

/-- The most rules of a page, at least one. -/
def pageLimit (size : UInt32) : UInt32 := max size 1

/-- The next page of a load. -/
def step (size : UInt32) (load : DenyLoad) : Dialogue store Next := do
  let page : Except Fault (List DenyRule) ←
    Dialogue.question (P := store) ⟨pageLimit size, load.cursor⟩
  return load.next page

/-- The end of a load within some number of pages, if it has come by then. -/
def run (size : UInt32) : (pages : Nat) → DenyLoad → Dialogue store (Option (Except Fault DenyList))
  | 0, _ => pure none
  | pages + 1, load => do
    match ← load.step size with
    | .onward load => load.run size pages
    | .complete list => return some (.ok list)
    | .failed f => return some (.error f)

end DenyLoad

end Sluice
