/-
  `Scan` — the tokens of a document.

  Each scanner takes the bytes that are left and gives what it read with the bytes after it, or the
  fault at which it stopped. A fault about a byte that was taken stands behind that byte, and so
  does one about the next byte when the scanner only looked at it (`faultAtNext`).

  String literals are read by a machine over single bytes: `Stage` is what it is in the middle of,
  `Stage.step` one byte. Numbers are read digit by digit, as `Number.ofParts` takes them.
-/
import SchemaCatalog.Json.Fault

namespace SchemaCatalog.Json

/-- What a scanner gives: a result and the bytes after it, or a fault. -/
abbrev Parsed (α : Type) := Except Fault (α × Bytes)

/-- A fault with the bytes `rest` still left. -/
def faultAt (rest : Bytes) (reason : Reason) : Fault := ⟨reason, rest.length⟩

/-- A fault about the first byte of `rest`, behind that byte; at the end of the text behind the last
one. -/
def faultAtNext (rest : Bytes) (reason : Reason) : Fault := ⟨reason, rest.length - 1⟩

/-! ### Blanks, words and digits -/

/-- Space, tab, line feed and carriage return. -/
def isBlank (b : UInt8) : Bool := b == 0x20 || b == 0x09 || b == 0x0A || b == 0x0D

/-- The bytes after leading blanks. -/
def skipBlanks (bytes : Bytes) : Bytes := bytes.dropWhile isBlank

def quote : UInt8 := 0x22
def backslash : UInt8 := 0x5C
def comma : UInt8 := 0x2C
def colon : UInt8 := 0x3A
def bracketOpen : UInt8 := 0x5B
def bracketClose : UInt8 := 0x5D
def braceOpen : UInt8 := 0x7B
def braceClose : UInt8 := 0x7D
def minus : UInt8 := 0x2D
def plus : UInt8 := 0x2B
def point : UInt8 := 0x2E
def letterE : UInt8 := 0x65
def letterCapitalE : UInt8 := 0x45
def letterF : UInt8 := 0x66
def letterN : UInt8 := 0x6E
def letterT : UInt8 := 0x74
def letterU : UInt8 := 0x75

/-- What follows the first letter of `null`. -/
def afterN : Bytes := [0x75, 0x6C, 0x6C]

/-- What follows the first letter of `true`. -/
def afterT : Bytes := [0x72, 0x75, 0x65]

/-- What follows the first letter of `false`. -/
def afterF : Bytes := [0x61, 0x6C, 0x73, 0x65]

/-- The bytes after the letters of `word`. -/
def expectWord : (word : Bytes) → Bytes → Except Fault Bytes
  | [], bytes => .ok bytes
  | _ :: _, [] => .error (faultAt [] .endInValue)
  | w :: word, b :: rest => if b = w then expectWord word rest else .error (faultAt rest .expectedIdent)

def isDigit (b : UInt8) : Bool := 0x30 ≤ b && b ≤ 0x39

def digitValue (b : UInt8) : Nat := b.toNat - 0x30

/-- The value of a hexadecimal digit. -/
def hexDigitValue (b : UInt8) : Option Nat :=
  if 0x30 ≤ b && b ≤ 0x39 then some (b.toNat - 0x30)
  else if 0x61 ≤ b && b ≤ 0x66 then some (b.toNat - 0x61 + 10)
  else if 0x41 ≤ b && b ≤ 0x46 then some (b.toNat - 0x41 + 10)
  else none

/-- The value of hexadecimal digits. -/
def hexValue (digits : Bytes) : Option Nat :=
  digits.foldlM (fun n b => (hexDigitValue b).map (n * 16 + ·)) 0

/-! ### String literals -/

/-- What the scanner of a literal is in the middle of. -/
inductive Stage where
  /-- Between characters. -/
  | plain
  /-- After a backslash. -/
  | escape
  /-- Among the four digits of a code unit, those read so far latest first; `high` is the
  unit before it if that one opens a surrogate pair. -/
  | hex (high : Option Nat) (digits : Bytes)
  /-- After a code unit that opens a surrogate pair. -/
  | pair (high : Nat)
  /-- After the backslash of the second unit. -/
  | pairEscape (high : Nat)
deriving DecidableEq, Repr

/-- Whether a code unit opens a surrogate pair. -/
def isHighSurrogate (n : Nat) : Bool := 0xD800 ≤ n && n ≤ 0xDBFF

/-- Whether a code unit closes one. -/
def isLowSurrogate (n : Nat) : Bool := 0xDC00 ≤ n && n ≤ 0xDFFF

/-- The byte that a one-letter escape stands for. -/
def unescape (b : UInt8) : Option UInt8 :=
  if b = quote || b = backslash || b = 0x2F then some b
  else if b = 0x62 then some 0x08
  else if b = 0x66 then some 0x0C
  else if b = 0x6E then some 0x0A
  else if b = 0x72 then some 0x0D
  else if b = 0x74 then some 0x09
  else none

/-- The code unit `n` after the open unit `high`, or on its own. -/
def Stage.ofUnit (high : Option Nat) (n : Nat) : Except Reason (Stage × Bytes) :=
  match high with
  | some high =>
    if isLowSurrogate n then
      .ok (plain, String.utf8EncodeChar
        (Char.ofNat (0x10000 + (high - 0xD800) * 0x400 + (n - 0xDC00))))
    else .error .loneSurrogate
  | none =>
    if isLowSurrogate n then .error .loneSurrogate
    else if isHighSurrogate n then .ok (pair n, [])
    else .ok (plain, String.utf8EncodeChar (Char.ofNat n))

/-- One byte of a literal: the stage after it, and the bytes it adds to the text. -/
def Stage.step : Stage → UInt8 → Except Reason (Stage × Bytes)
  | plain, b =>
    if b = backslash then .ok (escape, [])
    else if b < 0x20 then .error .controlCharacter
    else .ok (plain, [b])
  | escape, b =>
    match unescape b with
    | some c => .ok (plain, [c])
    | none => if b = letterU then .ok (hex none [], []) else .error .invalidEscape
  | hex high digits, b =>
    if digits.length < 3 then .ok (hex high (b :: digits), [])
    else match hexValue (b :: digits).reverse with
      | none => .error .invalidEscape
      | some n => ofUnit high n
  | pair high, b => if b = backslash then .ok (pairEscape high, []) else .error .endOfHexEscape
  | pairEscape high, b =>
    if b = letterU then .ok (hex (some high) [], []) else .error .endOfHexEscape

/-- The bytes of a literal up to its closing quote, after those in `read`, latest first. -/
def scanBytes (stage : Stage) (read : Bytes) : Bytes → Parsed Bytes
  | [] => .error (faultAt [] .endInString)
  | b :: rest =>
    if stage = .plain ∧ b = quote then .ok (read.reverse, rest)
    else match stage.step b with
      | .error reason => .error (faultAt rest reason)
      | .ok (next, added) => scanBytes next (added.reverse ++ read) rest

/-- A literal after its opening quote. If its bytes are no text, the fault lies as far before the end
of the literal as the first byte at fault lies before the end of those bytes: behind that byte itself,
unless there are escapes after it. -/
def scanString (bytes : Bytes) : Parsed String :=
  match scanBytes .plain [] bytes with
  | .error f => .error f
  | .ok (text, rest) =>
    match Utf8.split text with
    | (cs, []) => .ok (String.ofList cs, rest)
    | (_, bad) => .error (faultAt (bad ++ rest) .invalidCodePoint)

/-! ### Numbers -/

/-- `2 ^ 64`, which the gathered digits of a literal stay below. -/
def significandLimit : Nat := Nat.pow 2 64

/-- Gathers digits as long as the result stays below `significandLimit`: the result, how many
digits were gathered, and the bytes from the first digit that was not, if any. -/
def gatherDigits (significand count : Nat) : Bytes → Nat × Nat × Bytes
  | [] => (significand, count, [])
  | b :: rest =>
    if isDigit b && significand * 10 + digitValue b < significandLimit then
      gatherDigits (significand * 10 + digitValue b) (count + 1) rest
    else (significand, count, b :: rest)

/-- The number with these parts and the bytes after it; a fault if it is too large. -/
def numberOfParts (negative : Bool) (significand : Nat) (exponent : Int) (rest : Bytes) :
    Parsed Number :=
  match Number.ofParts negative significand exponent with
  | some x => .ok (x, rest)
  | none => .error (faultAt rest .numberOutOfRange)

/-- The greatest exponent that is taken as it is written. -/
def exponentLimit : Nat := Nat.pow 2 31 - 1

/-- The digits of an exponent after the first one. An exponent beyond `exponentLimit` makes the
number zero or too large. -/
def scanExponentDigits (negative : Bool) (significand : Nat) (start : Int) (down : Bool)
    (exponent : Nat) : Bytes → Parsed Number
  | [] => numberOfParts negative significand (if down then start - exponent else start + exponent) []
  | b :: rest =>
    if isDigit b then
      let exponent := exponent * 10 + digitValue b
      if exponentLimit < exponent then
        if significand != 0 && !down then .error (faultAt rest .numberOutOfRange)
        else .ok (.double (.zero negative), rest.dropWhile isDigit)
      else scanExponentDigits negative significand start down exponent rest
    else
      numberOfParts negative significand (if down then start - exponent else start + exponent)
        (b :: rest)

/-- The sign of an exponent: whether it is a minus, and the bytes after it. -/
def scanSign : Bytes → Bool × Bytes
  | [] => (false, [])
  | b :: rest => if b = plus then (false, rest) else if b = minus then (true, rest) else (false, b :: rest)

/-- An exponent after its letter. -/
def scanExponent (negative : Bool) (significand : Nat) (start : Int) (bytes : Bytes) :
    Parsed Number :=
  match scanSign bytes with
  | (_, []) => .error (faultAt [] .endInValue)
  | (down, b :: rest) =>
    if isDigit b then scanExponentDigits negative significand start down (digitValue b) rest
    else .error (faultAt rest .invalidNumber)

/-- What follows the digits: an exponent, or the end of the number. -/
def scanAfterDigits (negative : Bool) (significand : Nat) (exponent : Int) :
    Bytes → Parsed Number
  | [] => numberOfParts negative significand exponent []
  | b :: rest =>
    if b = letterE || b = letterCapitalE then scanExponent negative significand exponent rest
    else numberOfParts negative significand exponent (b :: rest)

/-- A fraction after its point, for a number whose whole digits lack `exponent` of them. -/
def scanFraction (negative : Bool) (significand : Nat) (exponent : Int) (bytes : Bytes) :
    Parsed Number :=
  let (significand, count, rest) := gatherDigits significand 0 bytes
  match rest with
  | [] =>
    if count = 0 then .error (faultAt [] .endInValue)
    else numberOfParts negative significand (exponent - count) []
  | b :: _ =>
    if count = 0 && !isDigit b then .error (faultAtNext rest .invalidNumber)
    else scanAfterDigits negative significand (exponent - count) (rest.dropWhile isDigit)

/-- What follows the whole digits of a number, `dropped` of which did not fit. -/
def scanAfterWhole (negative : Bool) (significand dropped : Nat) : Bytes → Parsed Number
  | [] =>
    if dropped = 0 then .ok (.ofDigits negative significand, [])
    else numberOfParts negative significand dropped []
  | b :: rest =>
    if b = point then scanFraction negative significand dropped rest
    else if b = letterE || b = letterCapitalE then scanExponent negative significand dropped rest
    else if dropped = 0 then .ok (.ofDigits negative significand, b :: rest)
    else numberOfParts negative significand dropped (b :: rest)

/-- A number after its sign. -/
def scanNumber (negative : Bool) : Bytes → Parsed Number
  | [] => .error (faultAt [] .endInValue)
  | b :: rest =>
    if b = 0x30 then
      match rest with
      | c :: _ =>
        if isDigit c then .error (faultAtNext rest .invalidNumber)
        else scanAfterWhole negative 0 0 rest
      | [] => scanAfterWhole negative 0 0 rest
    else if isDigit b then
      let (significand, _, rest) := gatherDigits (digitValue b) 0 rest
      let dropped := rest.takeWhile isDigit
      scanAfterWhole negative significand dropped.length (rest.drop dropped.length)
    else .error (faultAt rest .invalidNumber)

/-! ### Values of no expected type -/

/-- The fault of a document that is not what was expected: its token is read first, brackets and
braces excepted. `bytes` starts with the token. -/
def mismatch (expected : String) : Bytes → Fault
  | [] => faultAt [] .endInValue
  | b :: rest =>
    let scalar {α : Type} (found : α → Found) : Parsed α → Fault
      | .error f => f
      | .ok (x, rest) => faultAt rest (.invalidType (found x) expected)
    let word (found : Found) : Except Fault Bytes → Fault
      | .error f => f
      | .ok rest => faultAt rest (.invalidType found expected)
    if b = letterN then word .null (expectWord afterN rest)
    else if b = letterT then word (.bool true) (expectWord afterT rest)
    else if b = letterF then word (.bool false) (expectWord afterF rest)
    else if b = minus then scalar .number (scanNumber true rest)
    else if isDigit b then scalar .number (scanNumber false (b :: rest))
    else if b = quote then scalar .string (scanString rest)
    else if b = bracketOpen then faultAt (b :: rest) (.invalidType .sequence expected)
    else if b = braceOpen then faultAt (b :: rest) (.invalidType .map expected)
    else faultAtNext (b :: rest) .expectedValue

end SchemaCatalog.Json
