/-
  `Skip` — passing over a value that nobody asked for.

  The value of an unknown member is checked for syntax only: its strings need be no text, its numbers
  may have any size, its nesting any depth. `skipValue` keeps the open brackets and braces in a list
  of `Frame`s instead of calling itself, innermost first.
-/
import SchemaCatalog.Json.Scan

namespace SchemaCatalog.Json

/-- What the scanner of a skipped literal is in the middle of: between characters, after a
backslash, or among the digits of a code unit. -/
inductive SkipStage where
  | plain
  | escape
  | hex (digits : Bytes)
deriving DecidableEq, Repr

/-- The bytes after a literal whose opening quote has been taken. A control character is faulted
before it is taken, every other byte behind it. -/
def skipString (stage : SkipStage) : Bytes → Except Fault Bytes
  | [] => .error (faultAt [] .endInString)
  | b :: rest =>
    match stage with
    | .plain =>
      if b = quote then .ok rest
      else if b = backslash then skipString .escape rest
      else if b < 0x20 then .error (faultAt (b :: rest) .controlCharacter)
      else skipString .plain rest
    | .escape =>
      if (unescape b).isSome then skipString .plain rest
      else if b = letterU then skipString (.hex []) rest
      else .error (faultAt rest .invalidEscape)
    | .hex digits =>
      if digits.length < 3 then skipString (.hex (b :: digits)) rest
      else if (hexValue (b :: digits)).isSome then skipString .plain rest
      else .error (faultAt rest .invalidEscape)

/-- The bytes after an exponent whose letter has been taken. -/
def skipExponent (bytes : Bytes) : Except Fault Bytes :=
  match (scanSign bytes).2 with
  | [] => .error (faultAt [] .invalidNumber)
  | b :: rest =>
    if isDigit b then .ok (rest.dropWhile isDigit) else .error (faultAt rest .invalidNumber)

/-- The bytes after what may follow the digits of a number. -/
def skipAfterDigits : Bytes → Except Fault Bytes
  | [] => .ok []
  | b :: rest =>
    if b = letterE || b = letterCapitalE then skipExponent rest else .ok (b :: rest)

/-- The bytes after what may follow the whole digits of a number. -/
def skipAfterWhole : Bytes → Except Fault Bytes
  | [] => .ok []
  | b :: rest =>
    if b = point then
      match rest with
      | [] => .error (faultAtNext [] .invalidNumber)
      | c :: more =>
        if isDigit c then skipAfterDigits (more.dropWhile isDigit)
        else .error (faultAtNext rest .invalidNumber)
    else skipAfterDigits (b :: rest)

/-- The bytes after a number whose sign has been taken. -/
def skipNumber : Bytes → Except Fault Bytes
  | [] => .error (faultAt [] .invalidNumber)
  | b :: rest =>
    if b = 0x30 then
      match rest with
      | c :: _ => if isDigit c then .error (faultAtNext rest .invalidNumber) else skipAfterWhole rest
      | [] => .ok []
    else if isDigit b then skipAfterWhole (rest.dropWhile isDigit)
    else .error (faultAt rest .invalidNumber)

/-- An open bracket or brace. -/
inductive Frame where
  | list
  | object
deriving DecidableEq, Repr

/-- What the end of the text is inside a frame. -/
def Frame.atEnd : Frame → Reason
  | list => .endInList
  | object => .endInObject

/-- The bytes after the name of a member and its colon. -/
def skipName (bytes : Bytes) : Except Fault Bytes :=
  match skipBlanks bytes with
  | [] => .error (faultAt [] .endInObject)
  | b :: rest =>
    if b = quote then
      match skipString .plain rest with
      | .error f => .error f
      | .ok rest =>
        match skipBlanks rest with
        | [] => .error (faultAt [] .endInObject)
        | c :: after =>
          if c = colon then .ok after else .error (faultAtNext (c :: after) .expectedColon)
    else .error (faultAtNext (b :: rest) .keyNotString)

/-- The bytes after a scalar that starts the bytes. -/
def skipScalar : Bytes → Except Fault Bytes
  | [] => .error (faultAt [] .endInValue)
  | b :: rest =>
    if b = letterN then expectWord afterN rest
    else if b = letterT then expectWord afterT rest
    else if b = letterF then expectWord afterF rest
    else if b = minus then skipNumber rest
    else if isDigit b then skipNumber (b :: rest)
    else if b = quote then skipString .plain rest
    else .error (faultAtNext (b :: rest) .expectedValue)

mutual

/-- Passes over the value that comes next inside the frames `frames`, and over all that these hold
after it. Every step takes a byte at least, so the length of the text bounds `steps`. -/
def skipNext : (steps : Nat) → (frames : List Frame) → Bytes → Except Fault Bytes
  | 0, _, bytes => .error (faultAt bytes .endInValue)
  | steps + 1, frames, bytes =>
    match skipBlanks bytes with
    | [] => .error (faultAt [] .endInValue)
    | b :: rest =>
      if b = bracketOpen then skipRest steps false (.list :: frames) rest
      else if b = braceOpen then skipRest steps false (.object :: frames) rest
      else
        match skipScalar (b :: rest) with
        | .error f => .error f
        | .ok rest => skipRest steps true frames rest

/-- Passes over all that the frames `frames` still hold; `afterValue` says whether a value stands
right before, so that a comma may follow. -/
def skipRest : (steps : Nat) → (afterValue : Bool) → (frames : List Frame) → Bytes →
    Except Fault Bytes
  | _, _, [], bytes => .ok bytes
  | 0, _, _ :: _, bytes => .error (faultAt bytes .endInValue)
  | steps + 1, afterValue, frame :: frames, bytes =>
    let enter (bytes : Bytes) : Except Fault Bytes :=
      match frame with
      | .list => skipNext steps (frame :: frames) bytes
      | .object =>
        match skipName bytes with
        | .error f => .error f
        | .ok rest => skipNext steps (frame :: frames) rest
    match skipBlanks bytes with
    | [] => .error (faultAt [] frame.atEnd)
    | b :: rest =>
      if b = comma && afterValue then enter rest
      else if (frame = .list && b = bracketClose) || (frame = .object && b = braceClose) then
        skipRest steps true frames rest
      else if afterValue then
        .error (faultAtNext (b :: rest)
          (if frame = .list then .expectedCommaOrBracket else .expectedCommaOrBrace))
      else enter (b :: rest)

end

/-- The bytes after a value. `steps` is at least the length of the bytes. -/
def skipValue (steps : Nat) (bytes : Bytes) : Except Fault Bytes :=
  skipNext (2 * steps + 2) [] bytes

end SchemaCatalog.Json
