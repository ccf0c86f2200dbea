import MathAgents.Endpoint.Authority

namespace MathAgents.Endpoint

/-!
# Web addresses

An address is split into the place that a request goes to, the user in whose name it goes there, a
path and a query.  The path is written anew: backslashes separate like slashes, segments of dots
are resolved, and whatever may not stand in an address is percent-encoded.
-/

/-- A web address. -/
structure Url where
  scheme : String
  /-- The user in whose name requests are made. -/
  userinfo : Option Userinfo
  site : Site
  port : Nat
  /-- The segments of the path. -/
  path : List String
  query : Option String
  /-- What is not sent with a request. -/
  fragment : Option String
  deriving DecidableEq, Repr

/-! ### Paths -/

/-- The ASCII characters that are encoded in a path. -/
def pathSet (c : Char) : Bool := c ≤ ' ' || "\"#<>?\x60\x7b\x7d".toList.contains c

/-- Whether a character separates the segments of a path. -/
def isSeparator (c : Char) : Bool := c == '/' || c == '\\'

/-- A segment with encoded dots as plain ones. -/
def plainDots : List Char → List Char
  | '%' :: '2' :: 'e' :: cs => '.' :: plainDots cs
  | '%' :: '2' :: 'E' :: cs => '.' :: plainDots cs
  | c :: cs => c :: plainDots cs
  | [] => []

/-- The segments behind which a path goes on, given those before, backwards.  One dot stays where
    it is and two dots go one segment up; at the end of a path they leave an empty segment. -/
def resolve (before : List String) : List (List Char) → List String
  | [] => before.reverse
  | s :: rest =>
    let stay (before : List String) : List String := if rest.isEmpty then "" :: before else before
    if plainDots s = ['.'] then resolve (stay before) rest
    else if plainDots s = ['.', '.'] then resolve (stay before.tail) rest
    else resolve (percentEncode pathSet s :: before) rest

/-- The segments of a path as it is written, behind its first separator. -/
def pathSegments (cs : List Char) : List String := resolve [] (Text.pieces isSeparator cs)

/-! ### Addresses -/

/-- The ASCII characters that are encoded in a query. -/
def querySet (c : Char) : Bool := c ≤ ' ' || "\"#<>'".toList.contains c

/-- The ASCII characters that are encoded in a fragment. -/
def fragmentSet (c : Char) : Bool := c ≤ ' ' || "\"<>\x60".toList.contains c

/-- The schemes of the addresses that requests can be sent to, each with the port that holds where
    none is written. -/
def schemes : List (String × Nat) := [("http", 80), ("https", 443)]

/-- A text without the characters that an address does not count: line breaks and tabs, and space
    at either end. -/
def significant (cs : List Char) : List Char :=
  let trimmed := (cs.dropWhile (· ≤ ' ')).reverse.dropWhile (· ≤ ' ') |>.reverse
  trimmed.filter fun c => c != '\t' && c != '\n' && c != '\r'

/-- What stands behind the first character of a kind, if there is one, percent-encoded. -/
def encodedBehind (set : Char → Bool) (mark : Char) (cs : List Char) : Option String :=
  match cs.dropWhile (· != mark) with
  | [] => none
  | _ :: rest => some (percentEncode set rest)

/-- The address that a text denotes. -/
def Url.parse? (text : String) : Option Url := do
  let cs := significant text.toList
  let scheme := String.ofList ((cs.takeWhile (· != ':')).map Char.toLower)
  let rest := ((cs.dropWhile (· != ':')).drop 1).dropWhile isSeparator
  let ends (c : Char) : Bool := isSeparator c || c == '?' || c == '#'
  let usualPort ← schemes.lookup scheme
  let authority ← Authority.ofChars? (rest.takeWhile (!ends ·))
  let behind := rest.dropWhile (!ends ·)
  let sent := behind.takeWhile (· != '#')
  return {
    scheme, userinfo := authority.userinfo, site := authority.site
    port := authority.port.getD usualPort
    path := pathSegments ((sent.takeWhile (· != '?')).drop 1)
    query := encodedBehind querySet '?' sent
    fragment := encodedBehind fragmentSet '#' behind }

namespace Url

/-- What stands in front of a part of an address, and the part. -/
def marked (mark : String) : Option String → String
  | none => ""
  | some part => mark ++ part

/-- What of an address is asked for at its site. -/
def target (u : Url) : String := String.join (u.path.map ("/" ++ ·)) ++ marked "?" u.query

/-- The text of an address, without the user. -/
def text (u : Url) : String :=
  let port := if schemes.lookup u.scheme = some u.port then none else some (toString u.port)
  u.scheme ++ "://" ++ u.site.text ++ marked ":" port ++ u.target ++ marked "#" u.fragment

end Url

example : (Url.parse? "HTTP://a:b@127.1:080/x/../y?q#f").map Url.text =
    some "http://127.0.0.1/y?q#f" := by
  decide +kernel

end MathAgents.Endpoint
