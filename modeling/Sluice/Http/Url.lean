import Sluice.Http.Host
import Sluice.Http.UrlPath

/-!
# Addresses of resources

A `Url` has a scheme, an authority with a host and perhaps a user and a port, a path, and perhaps a
query and a fragment.  `Url.read` reads one from any text and brings it into its one spelling: the
scheme in lower case, the host and the path in theirs, no port that the scheme implies, and
everything that may not stand escaped.

A scheme that is not `special` may have no authority; without a slash after it its path is a text of
its own kind.
-/

namespace Sluice.Http

open Text (splitAtFirst splitBy number?)

/-- The address of a resource. -/
structure Url where
  scheme : String
  /-- The name of the user, escaped; it may be empty. -/
  user : String
  /-- The password of the user, escaped; it may be empty. -/
  password : String
  /-- The host, if there is an authority; it may be empty. -/
  host : Option String
  /-- The port, unless it is the one of the scheme. -/
  port : Option Nat
  path : UrlPath
  /-- The query, after a question mark. -/
  query : Option String
  /-- The fragment, after a number sign. -/
  fragment : Option String
deriving DecidableEq, Repr

namespace Url

/-! ## Characters -/

/-- A character that stands in a query. -/
def standsInQuery (special : Bool) (c : Char) : Bool :=
  Host.isPrinted c && !" \x22#<>".toList.contains c && !(special && c == '\x27')

/-- A character that stands in the name and in the password of a user. -/
def standsInUser (c : Char) : Bool := UrlPath.stands c && !"/:;=@[\\]^|".toList.contains c

/-! ## Schemes -/

/-- A scheme whose addresses always have an authority. -/
def isSpecial (scheme : String) : Bool :=
  ["http", "https", "ws", "wss", "ftp", "file"].contains scheme

/-- The port that a scheme implies. -/
def defaultPort? (scheme : String) : Option Nat :=
  if scheme == "http" || scheme == "ws" then some 80
  else if scheme == "https" || scheme == "wss" then some 443
  else if scheme == "ftp" then some 21
  else none

/-- A character that separates segments. -/
def isSlash (special : Bool) (c : Char) : Bool := c == '/' || (special && c == '\\')

/-- The scheme at the front of a text, in lower case, and the text after its colon. -/
def scheme? (cs : List Char) : Option (String × List Char) :=
  match cs with
  | [] => none
  | c :: _ =>
    if !c.isAlpha then none
    else
      match cs.span fun c => c.isAlphanum || c == '+' || c == '-' || c == '.' with
      | (name, ':' :: rest) => some (String.ofList (name.map Char.toLower), rest)
      | _ => none

/-! ## Authorities -/

/-- The text before the last of the signs that end a user, if there is one, and the text after
it. -/
def splitUser (cs : List Char) : Option (List Char) × List Char :=
  match cs.reverse.span (· != '@') with
  | (host, _ :: user) => (some user.reverse, host.reverse)
  | (_, []) => (none, cs)

/-- The text of a host and the text from its port on; colons between brackets belong to the host. -/
def splitHost (inBrackets : Bool) : List Char → List Char × List Char
  | [] => ([], [])
  | c :: r =>
    if c = ':' ∧ !inBrackets then ([], c :: r)
    else
      let (host, rest) := splitHost (c == '[' || (inBrackets && c != ']')) r
      (c :: host, rest)

/-- The port at the front of a text, unless the scheme implies it, and the text after it.  Only a
backslash may follow. -/
def portOf? (scheme : String) (cs : List Char) : Option (Option Nat × List Char) :=
  match cs with
  | ':' :: r =>
    let (digits, rest) := r.span Char.isDigit
    if rest.head?.any (· != '\\') then none
    else if digits.isEmpty then some (none, rest)
    else
      ((number? 10 digits).filter (· < 65536)).map fun p =>
        (if defaultPort? scheme = some p then none else some p, rest)
  | cs => some (none, cs)

/-- The address with the user, the host and the port of an authority, and what follows these in the
authority and after it. -/
def withAuthority? (u : Url) (cs : List Char) : Option (Url × List Char) := do
  let special := isSpecial u.scheme
  let (authority, after) := splitAtFirst (isSlash special) cs
  let (userInfo, place) := splitUser authority
  let (user, password) := splitAtFirst (· == ':') (userInfo.getD [])
  let (host, fromPort) := splitHost false place
  let hasUser := !user.isEmpty || 1 < password.length
  let goesOn := !after.isEmpty || u.query.isSome || u.fragment.isSome
  let endsAtUser := userInfo == some [] && place.isEmpty && goesOn
  if endsAtUser || (host.isEmpty && (hasUser || special || !fromPort.isEmpty)) then none
  else
    let name ← if host.isEmpty then some "" else Host.read special host
    let (port, rest) ← portOf? u.scheme fromPort
    some
      ({ u with
          user := Text.Percent.encode standsInUser (String.ofList user)
          password := Text.Percent.encode standsInUser (String.ofList (password.drop 1))
          host := some name
          port },
        rest ++ after)

/-! ## Places -/

/-- Segments with slashes between them. -/
def segments (special : Bool) (cs : List Char) : List (List Char) := splitBy (isSlash special) cs

/-- The address of a file without a host. -/
def withLocalFile (u : Url) (list : List (List Char)) : Url :=
  { u with host := some "", path := (UrlPath.ofFile list).1 }

/-- The address of a file with the host and the path that stand after two slashes. -/
def withFileAt? (u : Url) (cs : List Char) : Option Url :=
  let (host, rest) := splitAtFirst (isSlash true) cs
  if UrlPath.isDrive host then some (u.withLocalFile (segments true cs))
  else if host.isEmpty then some (u.withLocalFile (segments true rest))
  else do
    let name ← Host.read true host
    if name = "localhost" then return u.withLocalFile (segments true rest)
    let (path, isOnDrive) := UrlPath.ofFile (segments true (rest.drop 1))
    return { u with host := some (if isOnDrive then "" else name), path }

/-- The address of a file. -/
def withFile? (u : Url) (cs : List Char) : Option Url :=
  let slashes := (cs.takeWhile (isSlash true)).length
  if 2 ≤ slashes then u.withFileAt? (cs.drop 2)
  else some (u.withLocalFile (segments true (cs.drop slashes)))

/-- The address with the authority and the path that stand before the query. -/
def withPlace? (u : Url) (cs : List Char) : Option Url :=
  if u.scheme == "file" then u.withFile? cs
  else if isSpecial u.scheme then do
    let (u, rest) ← u.withAuthority? (cs.dropWhile (isSlash true))
    return { u with path := .ofSegments (segments true (rest.drop 1)) }
  else
    match cs with
    | '/' :: '/' :: r => do
      let (u, rest) ← u.withAuthority? r
      return { u with
        path :=
          match rest with
          | [] => .segments []
          | '/' :: rest => .ofSegments (segments false rest)
          | rest => .ofSegments (segments false rest) }
    | '/' :: r => some { u with path := .ofSegments (segments false r) }
    | cs => some { u with path := .text (Text.Percent.encode Host.isPrinted (String.ofList cs)) }

/-! ## Reading -/

/-- A text without the blanks and controls at its ends and without tabs and line ends. -/
def stripped (s : String) : List Char :=
  let outer (c : Char) : Bool := c.toNat ≤ 0x20
  let cs := ((s.toList.dropWhile outer).reverse.dropWhile outer).reverse
  cs.filter fun c => !"\t\n\r".toList.contains c

/-- The texts before the query, of the query and of the fragment. -/
def splitQuery (cs : List Char) : List Char × Option (List Char) × Option (List Char) :=
  let (front, fragment) :=
    match splitAtFirst (· == '#') cs with
    | (front, _ :: fragment) => (front, some fragment)
    | (front, []) => (front, none)
  match splitAtFirst (· == '?') front with
  | (path, _ :: query) => (path, some query, fragment)
  | (path, []) => (path, none, fragment)

/-- The address that a text spells. -/
def read (s : String) : Option Url := do
  let (scheme, rest) ← scheme? (stripped s)
  let (front, query, fragment) := splitQuery rest
  let u : Url :=
    { scheme
      user := ""
      password := ""
      host := none
      port := none
      path := .segments []
      query := query.map fun q =>
        Text.Percent.encode (standsInQuery (isSpecial scheme)) (String.ofList q)
      fragment := fragment.map fun f =>
        Text.Percent.encode UrlPath.standsInFragment (String.ofList f) }
  u.withPlace? front

/-! ## Writing -/

/-- What a server is asked for: the path and the query. -/
def target (u : Url) : String :=
  let path := u.path.render
  (if path.isEmpty then "/" else path) ++
    match u.query with
    | some q => "?" ++ q
    | none => ""

/-- The host and the port to connect to. -/
def endpoint (u : Url) : String :=
  u.host.getD "" ++
    match u.port.or (defaultPort? u.scheme) with
    | some p => ":" ++ toString p
    | none => ""

/-- The text of an authority.  Without one, a dot keeps a path with an empty segment at its front
from being taken for one. -/
def authorityText (u : Url) : String :=
  match u.host with
  | none => if "//".isPrefixOf u.path.render then "/." else ""
  | some host =>
    let password := if u.password.isEmpty then "" else ":" ++ u.password
    let user := if u.user.isEmpty && u.password.isEmpty then "" else u.user ++ password ++ "@"
    let port := match u.port with | some p => ":" ++ toString p | none => ""
    "//" ++ user ++ host ++ port

/-- The text of an address. -/
def text (u : Url) : String :=
  let query := match u.query with | some q => "?" ++ q | none => ""
  let fragment := match u.fragment with | some f => "#" ++ f | none => ""
  u.scheme ++ ":" ++ u.authorityText ++ u.path.render ++ query ++ fragment

/-! ## Calls -/

/-- The host is given and not empty. -/
def hasHost (u : Url) : Bool := u.host.any fun h => !h.isEmpty

/-- The address without its user, who is told in a header, if a header can tell the name. -/
def withoutUser (u : Url) : Url :=
  let isText (s : String) : Bool := (Text.ofBytes? (Text.Percent.decode (Text.bytes s))).isSome
  if isText u.user && (!u.user.isEmpty || isText u.password) then
    { u with user := "", password := "" }
  else u

/-- The most bytes of an address that is called. -/
def callLimit : Nat := 65534

/-- The address is short enough to be called, and its host has none of the signs that calls do not
admit. -/
def isCallable (u : Url) : Bool :=
  u.text.utf8ByteSize ≤ callLimit &&
    !(u.host.getD "").toList.any fun c => "\x22\x60\x7b\x7d".toList.contains c

/-- The address with more fields in its query. -/
def withFields (u : Url) (fields : List (String × String)) : Url :=
  let more := Text.Percent.form fields
  let query :=
    match u.query with
    | none => more
    | some q => if q.isEmpty then more else if more.isEmpty then q else q ++ "&" ++ more
  { u with query := if query.isEmpty then none else some query }

end Url

end Sluice.Http
