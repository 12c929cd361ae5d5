/-
  `Basic` — requests and answers of the web.

  An `Answer` is what a server gives; a `Reply` is what its caller sees of it, the body as it arrives.
-/
import SchemaCatalog.Text.Utf8

namespace SchemaCatalog.Http

/-- A request. -/
structure Request where
  method : String
  /-- The path, perhaps with a query, and perhaps behind a scheme and an authority. -/
  target : String
  headers : List (String × String) := []
  /-- The body as it is read: one that travels compressed, which the headers tell, is unpacked before. -/
  body : Bytes := []
deriving DecidableEq, Repr, Inhabited

/-- An answer, before it is compressed. -/
structure Answer where
  status : Nat
  mediaType : Option String := none
  body : String := ""
  /-- Whether the body travels compressed. -/
  compressed : Bool := false
deriving DecidableEq, Repr, Inhabited

/-- An answer as it arrives. -/
structure Reply where
  status : Nat
  /-- The length of the body, where it is told before the body. -/
  declaredLength : Option Nat := none
  /-- The body, in pieces. -/
  chunks : List Bytes := []
deriving DecidableEq, Repr, Inhabited

/-- Whether a character can stand in the name of a scheme. -/
def isSchemeChar (c : Char) : Bool := c.isAlphanum || c = '+' || c = '-' || c = '.'

/-- What follows the scheme and the authority of a target; a target without a scheme is left as it
is. -/
def afterAuthority (target : List Char) : List Char :=
  let scheme := target.takeWhile isSchemeChar
  match target.drop scheme.length with
  | ':' :: '/' :: '/' :: rest =>
    if scheme.isEmpty then target else rest.dropWhile fun c => c != '/' && c != '?' && c != '#'
  | _ => target

/-- The path of a request without its query, `/` in place of none. -/
def Request.path (r : Request) : String :=
  let path := (afterAuthority r.target.toList).takeWhile fun c => c != '?' && c != '#'
  if path.isEmpty then "/" else String.ofList path

/-- A text with the capital letters of ASCII made small. -/
def lowerAscii (s : String) : String := String.ofList (s.toList.map Char.toLower)

/-- The values of all headers of a name, which has no capital letters. -/
def Request.headerValues (r : Request) (name : String) : List String :=
  (r.headers.filter fun h => lowerAscii h.1 == name).map (·.2)

namespace Answer

/-- An answer without a body. -/
def empty (status : Nat) : Answer := { status }

/-- An answer that is a document. -/
def json (text : String) : Answer :=
  { status := 200, mediaType := some "application/json", body := text }

/-- The answer to a request whose body is too long. -/
def tooLarge : Answer :=
  { status := 413
    mediaType := some "text/plain; charset=utf-8"
    body := "Failed to buffer the request body: length limit exceeded" }

/-- The answer as its caller sees it. The length of a compressed body does not tell that of the body
itself. -/
def reply (a : Answer) : Reply :=
  let body := a.body.toUTF8.toList
  { status := a.status
    declaredLength := if a.compressed then none else some body.length
    chunks := [body] }

end Answer

end SchemaCatalog.Http
