/-
  `Encoding` — which encodings of bodies caller and server agree on.

  A request names the encoding of its own body, which has to be none or gzip, and those it takes for
  the answer, each with a weight. An answer of some length is compressed for callers that take gzip and
  prefer nothing else to it.
-/
import SchemaCatalog.Http.Basic
import SchemaCatalog.Text.Split

namespace SchemaCatalog.Http

/-! ### Weights -/

/-- A text without blanks at either end. -/
def trimBlanks (cs : List Char) : List Char :=
  ((cs.dropWhile Char.isWhitespace).reverse.dropWhile Char.isWhitespace).reverse

/-- What the digits after the point of a weight add to it in thousandths, `factor` being the worth of
the next one. There are at most three of them. -/
def weightFraction (factor : Nat) : List Char → Option Nat
  | [] => some 0
  | c :: cs =>
    if c.isDigit && factor != 0 then
      (weightFraction (factor / 10) cs).map (factor * (c.toNat - '0'.toNat) + ·)
    else none

/-- A weight such as `q=0.5`, in thousandths. -/
def weight? : List Char → Option Nat
  | q :: '=' :: whole :: rest =>
    if (q = 'q' || q = 'Q') && (whole = '0' || whole = '1') then
      let start := if whole = '1' then 1000 else 0
      match rest with
      | [] => some start
      | '.' :: digits => ((weightFraction 100 digits).map (start + ·)).filter (· ≤ 1000)
      | _ => none
    else none
  | _ => none

/-- The weight that one item of an `Accept-Encoding` header gives to an encoding with one of these
names. -/
def acceptedWeight (names : List String) (item : List Char) : Option Nat :=
  let name := item.takeWhile (· != ';')
  if !names.contains (lowerAscii (String.ofList (trimBlanks name))) then none
  else
    match item.dropWhile (· != ';') with
    | [] => some 1000
    | _ :: weight => weight? (trimBlanks weight)

/-- Whether a header can be read as text: it has printable ASCII characters and tabs only. -/
def isPlainText (value : String) : Bool :=
  value.toList.all fun c => (0x20 ≤ c.toNat && c.toNat < 0x7F) || c = '\t'

/-- The greatest weight that a request gives to an encoding with one of these names, zero without
one. Headers that cannot be read as text do not count. -/
def Request.greatestWeight (r : Request) (names : List String) : Nat :=
  let items := ((r.headerValues "accept-encoding").filter isPlainText).flatMap fun v =>
    Text.split ',' v.toList
  (items.filterMap (acceptedWeight names)).foldl max 0

/-! ### Agreement -/

/-- Whether a caller takes gzip, and prefers nothing else to it. -/
def Request.acceptsGzip (r : Request) : Bool :=
  let gzip := r.greatestWeight ["gzip", "x-gzip"]
  0 < gzip && r.greatestWeight ["identity"] ≤ gzip

/-- The least length of a body that is worth compressing. -/
def compressionThreshold : Nat := 32

/-- The answer as it travels to the sender of a request. -/
def Answer.compress (a : Answer) (r : Request) : Answer :=
  { a with compressed := r.acceptsGzip && compressionThreshold ≤ a.body.utf8ByteSize }

/-- Whether the body of a request travels in an encoding that can be unpacked. -/
def Request.isReadable (r : Request) : Bool :=
  match r.headerValues "content-encoding" with
  | [] => true
  | v :: _ => v == "gzip" || v == "identity"

end SchemaCatalog.Http
