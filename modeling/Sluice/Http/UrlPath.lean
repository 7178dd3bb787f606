import Sluice.Text.Percent
import Sluice.Text.Split

/-!
# Paths of addresses

A path is a list of segments, each after a slash, or a text without any.  A segment may be one of
the dot segments, for the same place or for the place above; `UrlPath.ofSegments` leaves them out.

Nothing is above a drive.  A file on a drive has no host: `UrlPath.ofFile` tells whether the path
starts with one.
-/

namespace Sluice.Http

/-- The path of an address. -/
inductive UrlPath where
  /-- Segments, each after a slash. -/
  | segments (list : List String)
  /-- A text that has no segments. -/
  | text (value : String)
deriving DecidableEq, Repr

namespace UrlPath

/-! ## Characters -/

/-- A character that stands in a fragment. -/
def standsInFragment (c : Char) : Bool :=
  0x20 < c.toNat && c.toNat < 0x7F && !"\x22<>\x60".toList.contains c

/-- A character that stands in a path. -/
def stands (c : Char) : Bool := standsInFragment c && !"#?\x7b\x7d".toList.contains c

/-! ## Segments -/

/-- A segment for the same place. -/
def isDot (s : List Char) : Bool :=
  s == ['.'] || s.map Char.toLower == "%2e".toList

/-- A segment for the place above. -/
def isDoubleDot (s : List Char) : Bool :=
  ["..", ".%2e", "%2e.", "%2e%2e"].any fun d => s.map Char.toLower == d.toList

/-- A segment is a drive, a letter with a colon or a bar, or goes on with a backslash after it. -/
def startsWithDrive : List Char → Bool
  | a :: b :: r => a.isAlpha && (b == ':' || b == '|') && (r.isEmpty || r.head? == some '\\')
  | _ => false

/-- A segment is a drive. -/
def isDrive (s : List Char) : Bool := s.length == 2 && startsWithDrive s

/-- The place above some segments, which stand last first. -/
def above : List (List Char) → List (List Char)
  | [] => []
  | s :: r => if startsWithDrive s then s :: r else r

/-- Segments, which stand last first, with one more.  A drive at the front of the path of a file has
a colon. -/
def push (isFile : Bool) (s : List Char) (read : List (List Char)) : List (List Char) :=
  if isFile && read.isEmpty && isDrive s then [s.take 1 ++ [':']] else s :: read

/-- The segments of a path without the dot segments, from those read so far, which stand last first.
A dot segment at the end leaves an empty one. -/
def withoutDots (isFile : Bool) (read : List (List Char)) : List (List Char) → List (List Char)
  | [] => read.reverse
  | [s] =>
    if isDoubleDot s then ([] :: above read).reverse
    else if isDot s then ([] :: read).reverse
    else (push isFile s read).reverse
  | s :: r =>
    if isDoubleDot s then withoutDots isFile (above read) r
    else if isDot s then withoutDots isFile read r
    else withoutDots isFile (push isFile s read) r

/-- A path with the characters of its segments escaped that may not stand there. -/
def escaped (list : List (List Char)) : UrlPath :=
  .segments (list.map fun s => Text.Percent.encode stands (String.ofList s))

/-- The path of some segments. -/
def ofSegments (list : List (List Char)) : UrlPath := escaped (withoutDots false [] list)

/-- The path of a file without the empty segments at its front, and whether a drive comes first. -/
def ofFile (list : List (List Char)) : UrlPath × Bool :=
  let list := withoutDots true [] list
  let bare := list.dropWhile List.isEmpty
  (escaped (if bare.isEmpty then [[]] else bare), list.head?.any isDrive)

/-! ## Writing -/

/-- The text of a path. -/
def render : UrlPath → String
  | .segments list => String.join (list.map ("/" ++ ·))
  | .text t => t

end UrlPath

end Sluice.Http
