/-
  `SocketAddress` — an address of the Internet with a port.

  `parse` reads the usual notations: four decimal numbers without leading zeros, or eight groups of
  hexadecimal digits in brackets, one run of zero groups shortened to `::`, the last two groups
  perhaps in decimal, perhaps with a numeric scope behind `%`; then a colon and the port. `text`
  writes an address in its shortest form, the first of the longest runs of at least two zero groups
  shortened.

  Each reader below takes the characters that are left and gives what it read with the characters
  after it, or `none`.
-/
namespace SchemaCatalog

/-- An address with a port. -/
inductive SocketAddress where
  | v4 (octets : List Nat) (port : Nat)
  | v6 (groups : List Nat) (scope : Nat) (port : Nat)
deriving DecidableEq, Repr, Inhabited

namespace SocketAddress

/-- The value of a digit below `radix`. -/
def digit? (radix : Nat) (c : Char) : Option Nat :=
  let n := c.toNat
  let value :=
    if '0'.toNat ≤ n && n ≤ '9'.toNat then some (n - '0'.toNat)
    else if 'a'.toNat ≤ n && n ≤ 'z'.toNat then some (n - 'a'.toNat + 10)
    else if 'A'.toNat ≤ n && n ≤ 'Z'.toNat then some (n - 'A'.toNat + 10)
    else none
  value.filter (· < radix)

/-- The leading digits of `cs`. -/
def leadingDigits (radix : Nat) (cs : List Char) : List Nat × List Char :=
  ((cs.takeWhile fun c => (digit? radix c).isSome).filterMap (digit? radix),
    cs.dropWhile fun c => (digit? radix c).isSome)

/-- A number of at most `maxDigits` digits, if that is a limit, below `bound`. -/
def number? (radix : Nat) (maxDigits : Option Nat) (zeroPadded : Bool) (bound : Nat)
    (cs : List Char) : Option (Nat × List Char) :=
  let (digits, rest) := leadingDigits radix cs
  let value := digits.foldl (fun n d => n * radix + d) 0
  if digits.isEmpty then none
  else if maxDigits.any (· < digits.length) then none
  else if !zeroPadded && digits.length > 1 && digits.head? = some 0 then none
  else if bound ≤ value then none
  else some (value, rest)

/-- The characters after `c`, which has to come first. -/
def expect? (c : Char) : List Char → Option (List Char)
  | [] => none
  | d :: rest => if d = c then some rest else none

def octet? (cs : List Char) : Option (Nat × List Char) := number? 10 (some 3) false 256 cs

/-- Four decimal numbers with points between them. -/
def octets? (cs : List Char) : Option (List Nat × List Char) := do
  let (a, cs) ← octet? cs
  let (b, cs) ← octet? (← expect? '.' cs)
  let (c, cs) ← octet? (← expect? '.' cs)
  let (d, cs) ← octet? (← expect? '.' cs)
  return ([a, b, c, d], cs)

/-- Groups with colons between them, at most `room`: the groups, whether the last two of them were
written in decimal, and what follows. `later` says whether a group came before. -/
def groups (room : Nat) (later : Bool) (cs : List Char) : List Nat × Bool × List Char :=
  match room with
  | 0 => ([], false, cs)
  | room + 1 =>
    let start := if later then expect? ':' cs else some cs
    let decimal := if room = 0 then none else start.bind octets?
    match decimal with
    | some ([a, b, c, d], rest) => ([a * 256 + b, c * 256 + d], true, rest)
    | _ =>
      match start.bind (number? 16 (some 4) true 65536) with
      | none => ([], false, cs)
      | some (g, rest) =>
        let (more, decimal, rest) := groups room true rest
        (g :: more, decimal, rest)

/-- Eight groups, or fewer with a `::` in place of the missing ones. -/
def sixteenBytes? (cs : List Char) : Option (List Nat × List Char) := do
  let (front, decimal, cs) := groups 8 false cs
  if front.length = 8 then return (front, cs)
  if decimal then none
  let cs ← expect? ':' (← expect? ':' cs)
  let (back, _, cs) := groups (7 - front.length) false cs
  return (front ++ List.replicate (8 - front.length - back.length) 0 ++ back, cs)

def port? (cs : List Char) : Option (Nat × List Char) := do
  number? 10 none true 65536 (← expect? ':' cs)

/-- A scope behind `%`, zero without one. -/
def scope (cs : List Char) : Nat × List Char :=
  (((expect? '%' cs).bind (number? 10 none true (Nat.pow 2 32)))).getD (0, cs)

def v4? (cs : List Char) : Option SocketAddress := do
  let (octets, cs) ← octets? cs
  let (port, cs) ← port? cs
  if cs.isEmpty then return .v4 octets port else none

def v6? (cs : List Char) : Option SocketAddress := do
  let (groups, cs) ← sixteenBytes? (← expect? '[' cs)
  let (scope, cs) := scope cs
  let (port, cs) ← port? (← expect? ']' cs)
  if cs.isEmpty then return .v6 groups scope port else none

/-- The address that a text stands for. -/
def parse (s : String) : Option SocketAddress := (v4? s.toList).or (v6? s.toList)

/-! ### Writing -/

def octetsText (octets : List Nat) : String := String.intercalate "." (octets.map toString)

def groupText (g : Nat) : String := String.ofList (Nat.toDigits 16 g)

def groupsText (gs : List Nat) : String := String.intercalate ":" (gs.map groupText)

/-- How many zeros `gs` starts with. -/
def zerosAtStart (gs : List Nat) : Nat := (gs.takeWhile (· = 0)).length

/-- Where the first of the longest runs of zeros in `gs` starts, and its length; `index` is where
`gs` itself starts. -/
def longestZeros (index : Nat) : List Nat → Nat × Nat
  | [] => (index, 0)
  | g :: gs =>
    let here := zerosAtStart (g :: gs)
    let later := longestZeros (index + 1) gs
    if here < later.2 then later else (index, here)

/-- Eight groups in their shortest form. -/
def shortGroupsText (gs : List Nat) : String :=
  let (start, count) := longestZeros 0 gs
  if 1 < count then groupsText (gs.take start) ++ "::" ++ groupsText (gs.drop (start + count))
  else groupsText gs

/-- Eight groups in their shortest form, or in decimal if they are mapped to an address of version 4. -/
def sixteenBytesText (gs : List Nat) : String :=
  match gs with
  | [0, 0, 0, 0, 0, 0xFFFF, a, b] =>
    "::ffff:" ++ octetsText [a / 256, a % 256, b / 256, b % 256]
  | _ => shortGroupsText gs

/-- The notation of an address. -/
def text : SocketAddress → String
  | v4 octets port => octetsText octets ++ ":" ++ toString port
  | v6 groups 0 port => "[" ++ sixteenBytesText groups ++ "]:" ++ toString port
  | v6 groups scope port =>
    "[" ++ sixteenBytesText groups ++ "%" ++ toString scope ++ "]:" ++ toString port

end SocketAddress

end SchemaCatalog
