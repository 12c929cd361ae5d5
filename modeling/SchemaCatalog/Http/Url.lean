/-
  `Url` — the addresses of the web.

  `parse` reads an address the way browsers do: slashes before the host do not count, a backslash is a
  slash, the port of the scheme itself goes without saying, dot segments are walked, and characters
  that may not stand in a path are written as bytes in hexadecimal. `text` writes it in its one
  spelling. Hosts are addresses or names.

  A name and a password may stand before the host. Where they can be read as text, they are taken for the
  request and do not belong to the address any more.

  Not every address can be that of a request: `isSendable` tells which can, and `target` what such a
  request asks the host for.
-/
import SchemaCatalog.Http.Basic
import SchemaCatalog.Http.HostName
import SchemaCatalog.SocketAddress

namespace SchemaCatalog.Http

/-- An address of the web. -/
structure Url where
  secure : Bool
  /-- The name and the password that could not be taken, with the sign behind them. -/
  credentials : String
  host : String
  /-- The port, unless it is the one of the scheme. -/
  port : Option Nat
  /-- The segments of the path. -/
  path : List String
  /-- The rest from a question mark or number sign on. -/
  suffix : String
deriving DecidableEq, Repr, Inhabited

namespace Url

/-! ### Characters -/

/-- The digits of a byte. -/
def hexByte (b : UInt8) : List Char :=
  let digits := (Nat.toDigits 16 b.toNat).map Char.toUpper
  '%' :: (if digits.length < 2 then '0' :: digits else digits)

/-- A character as its bytes in hexadecimal, if it is in the set or no printable ASCII. -/
def escapeChar (set : List Char) (c : Char) : List Char :=
  if c.toNat ≤ 0x20 || 0x7E < c.toNat || set.contains c then
    (String.ofList [c]).toUTF8.toList.flatMap hexByte
  else [c]

/-- What may not stand in a fragment. -/
def fragmentSet : List Char := ['"', '<', '>', Char.ofNat 0x60]

/-- What may not stand in a query. -/
def querySet : List Char := ['"', '#', '<', '>', '\'']

/-- What may not stand in a path. -/
def pathSet : List Char := fragmentSet ++ ['#', '?', '\x7b', '\x7d']

/-- What may not stand in a name or a password. -/
def credentialSet : List Char := pathSet ++ ['/', ':', ';', '=', '@', '[', '\\', ']', '^', '|']

/-- The bytes of a text in which `%` and two digits stand for a byte. -/
def unescape : List Char → Bytes
  | [] => []
  | '%' :: a :: b :: rest =>
    match SocketAddress.digit? 16 a, SocketAddress.digit? 16 b with
    | some x, some y => UInt8.ofNat (x * 16 + y) :: unescape rest
    | _, _ => Utf8.encodeChars ['%'] ++ unescape (a :: b :: rest)
  | c :: rest => Utf8.encodeChars [c] ++ unescape rest

def isSlash (c : Char) : Bool := c = '/' || c = '\\'

/-! ### Host and port -/

/-- The port behind the host: nothing and a colon alone stand for none. -/
def port? (standard : Nat) : List Char → Option (Option Nat)
  | [] => some none
  | [':'] => some none
  | ':' :: digits =>
    match SocketAddress.number? 10 none true 65536 digits with
    | some (n, []) => some (if n = standard then none else some n)
    | _ => none
  | _ => none

/-- The value of one number of an address: hexadecimal behind `0x`, octal behind `0`. -/
def addressNumber? (cs : List Char) : Option Nat :=
  let value (radix : Nat) (cs : List Char) : Option Nat :=
    if cs.all fun c => (SocketAddress.digit? radix c).isSome then
      some ((cs.filterMap (SocketAddress.digit? radix)).foldl (fun n d => n * radix + d) 0)
    else none
  match cs with
  | [] => none
  | '0' :: 'x' :: rest => value 16 rest
  | '0' :: rest => value 8 rest
  | cs => value 10 cs

/-- The four numbers of an address given by one to four numbers, the last of which fills the rest. -/
def addressOctets? (numbers : List Nat) : Option (List Nat) :=
  let last := numbers.getLast?.getD 0
  let front := numbers.dropLast
  if numbers.isEmpty || 4 < numbers.length || front.any (255 < ·) ||
      Nat.pow 256 (4 - front.length) ≤ last then none
  else
    some (front ++ (List.range (4 - front.length)).reverse.map fun i => last / Nat.pow 256 i % 256)

/-- The name of a host, or the address that it is if its last part is a number. -/
def host? (cs : List Char) : Option String := do
  let name ← HostName.toAscii? (← Utf8.decode (unescape cs)).toList
  if name.isEmpty then none
  let parts := Text.split '.' name
  let parts := if 1 < parts.length && parts.getLast? = some [] then parts.dropLast else parts
  let last := parts.getLast?.getD []
  let numeric := (!last.isEmpty && last.all Char.isDigit) || (addressNumber? last).isSome
  if numeric then ((parts.mapM addressNumber?).bind addressOctets?).map SocketAddress.octetsText
  else some (String.ofList name)

/-- The host and the port of an authority. -/
def authority? (standard : Nat) (cs : List Char) : Option (String × Option Nat) :=
  match cs with
  | '[' :: rest =>
    match SocketAddress.sixteenBytes? rest with
    | some (groups, ']' :: rest) =>
      (port? standard rest).map (("[" ++ SocketAddress.shortGroupsText groups ++ "]"), ·)
    | _ => none
  | cs => do
    let host ← host? (cs.takeWhile (· != ':'))
    return (host, ← port? standard (cs.dropWhile (· != ':')))

/-- Whether a name and a password are taken for the request: the name has to be text, and the password
too unless there is a name. -/
def isTaken (name password : List Char) : Bool :=
  (Utf8.decode (unescape name)).isSome &&
    (!name.isEmpty || (Utf8.decode (unescape password)).isSome)

/-- What stays before the host of a name and a password, the first colon between them. -/
def keptCredentials (cs : List Char) : List Char :=
  let name := cs.takeWhile (· != ':')
  let password := cs.drop (name.length + 1)
  if isTaken name password then []
  else
    name.flatMap (escapeChar credentialSet) ++
      (if password.isEmpty then [] else ':' :: password.flatMap (escapeChar credentialSet)) ++ ['@']

/-! ### Path -/

/-- Whether a segment stands for the place it is at. -/
def isSingleDot (segment : String) : Bool := [".", "%2e"].contains (lowerAscii segment)

/-- Whether a segment stands for the place above. -/
def isDoubleDot (segment : String) : Bool :=
  ["..", ".%2e", "%2e.", "%2e%2e"].contains (lowerAscii segment)

/-- The segments of a path with its dot segments walked; `done` are those before, the last one
first. -/
def walk (done : List String) : List String → List String
  | [] => done.reverse
  | s :: rest =>
    if isDoubleDot s then walk (if rest.isEmpty then "" :: done.tail else done.tail) rest
    else if isSingleDot s then walk (if rest.isEmpty then "" :: done else done) rest
    else walk (s :: done) rest

/-- The segments of a path, the slash before them left out. -/
def segments (cs : List Char) : List String :=
  walk [] ((Text.split '/' (cs.map fun c => if isSlash c then '/' else c)).map fun s =>
    String.ofList (s.flatMap (escapeChar pathSet)))

/-! ### Reading and writing -/

/-- A text without controls and blanks at its ends, and without line ends and tabs. -/
def tidy (cs : List Char) : List Char :=
  let idle (c : Char) : Bool := c.toNat ≤ 0x20
  let bare := ((cs.dropWhile idle).reverse.dropWhile idle).reverse
  bare.filter fun c => c != '\t' && c != '\n' && c != '\r'

/-- A query and a fragment, each from its sign on. -/
def escapedSuffix (cs : List Char) : List Char :=
  let query := cs.takeWhile (· != '#')
  let fragment := cs.drop query.length
  query.take 1 ++ (query.drop 1).flatMap (escapeChar querySet) ++
    (fragment.take 1 ++ (fragment.drop 1).flatMap (escapeChar fragmentSet))

/-- What follows the scheme, behind the authority of it and its slashes. -/
def afterScheme? (secure : Bool) (cs : List Char) : Option Url := do
  let rest := cs.dropWhile isSlash
  let ends (c : Char) : Bool := isSlash c || c = '?' || c = '#'
  let authority := rest.takeWhile (!ends ·)
  let place := (authority.reverse.takeWhile (· != '@')).reverse
  let person := authority.take (authority.length - place.length - 1)
  let (host, port) ← authority? (if secure then 443 else 80) place
  let tail := rest.drop authority.length
  let path := tail.takeWhile fun c => c != '?' && c != '#'
  return {
    secure
    credentials := String.ofList (if person.isEmpty then [] else keptCredentials person)
    host
    port
    path := segments (path.drop 1)
    suffix := String.ofList (escapedSuffix (tail.drop path.length)) }

/-- The address of the web that a text stands for. -/
def parse (s : String) : Option Url :=
  let cs := tidy s.toList
  let scheme := lowerAscii (String.ofList (cs.takeWhile (· != ':')))
  let rest := (cs.dropWhile (· != ':')).drop 1
  if scheme = "http" then afterScheme? false rest
  else if scheme = "https" then afterScheme? true rest
  else none

/-- The spelling of an address of the web. -/
def text (u : Url) : String :=
  (if u.secure then "https://" else "http://") ++ u.credentials ++ u.host ++
    (match u.port with
      | some port => ":" ++ toString port
      | none => "") ++
    "/" ++ String.intercalate "/" u.path ++ u.suffix

/-! ### Sending -/

/-- What a request to an address asks the host for: the path and the query. A fragment is not sent. -/
def target (u : Url) : String :=
  "/" ++ String.intercalate "/" u.path ++ String.ofList (u.suffix.toList.takeWhile (· != '#'))

/-- What may stand in the name of a host that an address can have, but a request cannot. -/
def unsendableSet : List Char := ['"', Char.ofNat 0x60, '\x7b', '\x7d']

/-- The most bytes of the address of a request. -/
def lengthLimit : Nat := 65534

/-- Whether a request can be sent to an address. -/
def isSendable (u : Url) : Bool :=
  u.host.toList.all (!unsendableSet.contains ·) && u.text.utf8ByteSize ≤ lengthLimit

end Url

end SchemaCatalog.Http
