import MathAgents.Bytes.Base64
import MathAgents.Endpoint.Percent
import MathAgents.Text.Plain
import MathAgents.Text.Search

namespace MathAgents.Endpoint

/-!
# Authorities

The part of an address that says who is asked and by whom: a site, perhaps with a port, and in
front of them perhaps a user with a password.  A site that ends in a number is an address of four
bytes, which may be written in several ways; `addressOf?` gives the bytes.
-/

/-! ### Users -/

/-- The user that an address names. -/
structure Userinfo where
  name : String
  password : Option String
  deriving DecidableEq, Repr

namespace Userinfo

/-- The text that percent-encoded characters amount to, unless its bytes are malformed. -/
def decode? (cs : List Char) : Option String := Text.decode? (percentDecode cs)

/-- The user that a text names, if any: a colon separates the password from the name.  A name that
    cannot be read is no user, and a password that cannot be read is none. -/
def ofChars? (cs : List Char) : Option Userinfo := do
  let name ← decode? (cs.takeWhile (· != ':'))
  let written := (cs.dropWhile (· != ':')).drop 1
  let password := if written.isEmpty then none else decode? written
  if name.isEmpty ∧ password.isNone then none else some { name, password }

/-- How the user is named to the host. -/
def credential (u : Userinfo) : String :=
  let pair := u.name ++ ":" ++ u.password.getD ""
  "Basic " ++ String.ofList (Base64.encode (Text.encode pair))

end Userinfo

/-! ### Sites -/

/-- Where a request goes: an address of four bytes, or a name. -/
inductive Site where
  | address (bytes : List Nat)
  | name (text : String)
  deriving DecidableEq, Repr

/-- Whether a character may stand in the name of a site. -/
def isHostChar (c : Char) : Bool := ' ' < c && c != '\x7f' && !"#/:<>?@[\\]^|%".toList.contains c

/-- The number that digits of a base denote. -/
def digitsNat? (base : Nat) (digits : List Char) : Option Nat :=
  digits.foldlM (fun n d => (Text.hexValue? d).bind fun v =>
    if v < base then some (base * n + v) else none) 0

/-- The number that a part of an address denotes: hexadecimal behind `0x`, octal behind a zero. -/
def partNat? : List Char → Option Nat
  | [] => none
  | '0' :: 'x' :: ds => digitsNat? 16 ds
  | '0' :: d :: ds => digitsNat? 8 (d :: ds)
  | ds => digitsNat? 10 ds

/-- The address of four bytes that numbers denote: a byte each, and the last one takes up all
    bytes that are left. -/
def addressOf? (before : List Nat) (last : Nat) : Option (List Nat) :=
  let places := 4 - before.length
  if before.length < 4 ∧ before.all (· < 256) ∧ last < Nat.pow 256 places then
    some (before ++ (List.range places).map fun i => last / Nat.pow 256 (places - 1 - i) % 256)
  else none

/-- The site that a plain text names.  A dot at the end of an address does not count. -/
def Site.ofPlain? (cs : List Char) : Option Site :=
  let parts := Text.pieces (· == '.') cs
  let parts := if parts.getLast? = some [] ∧ 1 < parts.length then parts.dropLast else parts
  let last := parts.getLast?.getD []
  if (partNat? last).isSome ∨ (!last.isEmpty ∧ last.all Char.isDigit) then do
    let numbers ← parts.mapM partNat?
    (addressOf? numbers.dropLast (← numbers.getLast?)).map .address
  else some (.name (String.ofList cs))

/-- The site that a text names, in whatever dress its characters come. -/
def Site.ofChars? (cs : List Char) : Option Site :=
  let plain := (Text.decodeReplacing (percentDecode cs)).toList.flatMap Text.plain
  if !plain.isEmpty && plain.all isHostChar then Site.ofPlain? plain else none

/-- The text of a site. -/
def Site.text : Site → String
  | .address bytes => String.intercalate "." (bytes.map toString)
  | .name text => text

/-- The port that a text names: digits that fit in 16 bits, or nothing. -/
def portOf? (cs : List Char) : Option (Option Nat) :=
  if cs.isEmpty then some none
  else do
    let n ← digitsNat? 10 cs
    if n < UInt16.size then some (some n) else none

/-! ### Authorities -/

/-- Who is asked, and by whom. -/
structure Authority where
  userinfo : Option Userinfo
  site : Site
  port : Option Nat
  deriving DecidableEq, Repr

/-- The authority that a text denotes.  The last `@` ends the user. -/
def Authority.ofChars? (cs : List Char) : Option Authority := do
  let backwards := cs.reverse
  let user := ((backwards.dropWhile (· != '@')).drop 1).reverse
  let place := (backwards.takeWhile (· != '@')).reverse
  let site ← Site.ofChars? (place.takeWhile (· != ':'))
  let port ← portOf? ((place.dropWhile (· != ':')).drop 1)
  return { userinfo := Userinfo.ofChars? user, site, port }

example : Site.ofChars? "127.1".toList = some (.address [127, 0, 0, 1]) ∧
    Site.ofChars? "0x7F.0.0.01.".toList = some (.address [127, 0, 0, 1]) ∧
    Site.ofChars? "256.1.1.1".toList = none ∧ Site.ofChars? "A.b".toList = some (.name "a.b") := by
  decide +kernel

end MathAgents.Endpoint
