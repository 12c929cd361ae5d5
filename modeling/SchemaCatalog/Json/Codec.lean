/-
  `Codec` — how a type is read from and written as a document.

  A codec reads its type straight from text, where a fault has a place and comes at the first byte
  that rules the text out, or takes it from a document that has been parsed before. It writes values
  as documents. The codecs here are those of the single values and of lists; records are in
  `Json.Record`.

  Readers of text take two bounds: `steps`, at least the number of bytes left, which every round of a
  loop and every level of nesting lowers by one, and `depth`, the number of brackets and braces that
  may still be opened.
-/
import SchemaCatalog.Json.Skip

namespace SchemaCatalog.Json

/-- How a type is read and written. -/
structure Codec (α : Type) where
  /-- Reads a value from text, blanks before it included. -/
  read : (steps depth : Nat) → Bytes → Parsed α
  /-- Takes a value from a document. -/
  accept : Value → Except Reason α
  /-- Writes a value. -/
  write : α → Value

/-- How many brackets and braces may be open at once. -/
def maxDepth : Nat := 127

/-- What a document is, for a message that it is not what was expected. -/
def Value.found : Value → Found
  | .null => .null
  | .bool b => .bool b
  | .number n => .number n
  | .string s => .string s
  | .array _ => .sequence
  | .object _ => .map

/-- Goes on behind the bracket or brace that starts `bytes`, one level deeper. -/
def nested {α : Type} (depth : Nat) (bytes : Bytes) (inside : (depth : Nat) → Bytes → Parsed α) :
    Parsed α :=
  match depth with
  | 0 => .error (faultAtNext bytes .recursionLimit)
  | depth + 1 => inside depth bytes.tail

/-- Items up to the closing bracket; `first` says that none has been read yet. -/
def readItems {α : Type} (item : (steps : Nat) → Bytes → Parsed α) :
    (steps : Nat) → (first : Bool) → Bytes → Parsed (List α)
  | 0, _, bytes => .error (faultAt bytes .endInList)
  | steps + 1, first, bytes =>
    let more (bytes : Bytes) : Parsed (List α) :=
      match item steps bytes with
      | .error f => .error f
      | .ok (x, rest) =>
        match readItems item steps false rest with
        | .error f => .error f
        | .ok (xs, rest) => .ok (x :: xs, rest)
    match skipBlanks bytes with
    | [] => .error (faultAt [] .endInList)
    | b :: rest =>
      if b = bracketClose then .ok ([], rest)
      else if first then more (b :: rest)
      else if b = comma then
        match skipBlanks rest with
        | [] => .error (faultAt [] .endInValue)
        | c :: after =>
          if c = bracketClose then .error (faultAtNext (c :: after) .trailingComma)
          else more (c :: after)
      else .error (faultAtNext (b :: rest) .expectedCommaOrBracket)

/-- Members up to the closing brace. `member` gets what has been gathered so far, the name, and the
bytes behind the name. -/
def readMembers {σ : Type} (member : (steps : Nat) → σ → String → Bytes → Parsed σ) :
    (steps : Nat) → (first : Bool) → σ → Bytes → Parsed σ
  | 0, _, _, bytes => .error (faultAt bytes .endInObject)
  | steps + 1, first, gathered, bytes =>
    let more (bytes : Bytes) : Parsed σ :=
      match scanString bytes with
      | .error f => .error f
      | .ok (name, rest) =>
        match member steps gathered name rest with
        | .error f => .error f
        | .ok (gathered, rest) => readMembers member steps false gathered rest
    match skipBlanks bytes with
    | [] => .error (faultAt [] .endInObject)
    | b :: rest =>
      if b = braceClose then .ok (gathered, rest)
      else if first then
        if b = quote then more rest else .error (faultAtNext (b :: rest) .keyNotString)
      else if b = comma then
        match skipBlanks rest with
        | [] => .error (faultAt [] .endInValue)
        | c :: after =>
          if c = quote then more after
          else if c = braceClose then .error (faultAtNext (c :: after) .trailingComma)
          else .error (faultAtNext (c :: after) .keyNotString)
      else .error (faultAtNext (b :: rest) .expectedCommaOrBrace)

/-- The bytes behind the colon after a name. -/
def expectColon (bytes : Bytes) : Except Fault Bytes :=
  match skipBlanks bytes with
  | [] => .error (faultAt [] .endInObject)
  | b :: rest => if b = colon then .ok rest else .error (faultAtNext (b :: rest) .expectedColon)

namespace Codec

/-- Another type read and written through this one. -/
def imap {α β : Type} (c : Codec α) (forth : α → β) (back : β → α) : Codec β where
  read steps depth bytes := (c.read steps depth bytes).map fun r => (forth r.1, r.2)
  accept v := (c.accept v).map forth
  write b := c.write (back b)

/-- A text; `expected` names it in messages. -/
def text (expected : String) : Codec String where
  read _ _ bytes :=
    match skipBlanks bytes with
    | b :: rest => if b = quote then scanString rest else .error (mismatch expected (b :: rest))
    | [] => .error (mismatch expected [])
  accept
    | .string s => .ok s
    | v => .error (.invalidType v.found expected)
  write := .string

/-- Any text. -/
def string : Codec String := text "a string"

/-- The text of a file path. -/
def path : Codec String := text "path string"

/-- Any number; `expected` names it in messages. -/
def number (expected : String) : Codec Number where
  read _ _ bytes :=
    match skipBlanks bytes with
    | b :: rest =>
      if b = minus then scanNumber true rest
      else if isDigit b then scanNumber false (b :: rest)
      else .error (mismatch expected (b :: rest))
    | [] => .error (mismatch expected [])
  accept
    | .number n => .ok n
    | v => .error (.invalidType v.found expected)
  write := .number

/-- The integer that a number has to be, from `low` to `high`. -/
def checkInteger (expected : String) (low high : Int) : Number → Except Reason Int
  | .integer n =>
    if low ≤ n && n ≤ high then .ok n else .error (.invalidValue (.number (.integer n)) expected)
  | x => .error (.invalidType (.number x) expected)

/-- An integer from `low` to `high`. -/
def integer (expected : String) (low high : Int) : Codec Int where
  read steps depth bytes :=
    match (number expected).read steps depth bytes with
    | .error f => .error f
    | .ok (x, rest) =>
      match checkInteger expected low high x with
      | .error reason => .error (faultAt rest reason)
      | .ok n => .ok (n, rest)
  accept v :=
    match (number expected).accept v with
    | .error reason => .error reason
    | .ok x => checkInteger expected low high x
  write n := .number (.integer n)

/-- A natural number below `2 ^ 64`. -/
def natural (expected : String) : Codec Nat :=
  (integer expected 0 Number.maxInteger).imap Int.toNat Int.ofNat

/-- A size. -/
def size : Codec Nat := natural "usize"

/-- A count that need not be a size. -/
def count : Codec Nat := natural "u64"

/-- A signed integer of 32 bits. -/
def signed32 : Codec Int := integer "i32" (-0x80000000) 0x7FFFFFFF

/-- A value that may be `null`. -/
def optional {α : Type} (c : Codec α) : Codec (Option α) where
  read steps depth bytes :=
    match skipBlanks bytes with
    | b :: rest =>
      if b = letterN then (expectWord afterN rest).map (none, ·)
      else (c.read steps depth (b :: rest)).map fun r => (some r.1, r.2)
    | [] => (c.read steps depth []).map fun r => (some r.1, r.2)
  accept
    | .null => .ok none
    | v => (c.accept v).map some
  write
    | none => .null
    | some a => c.write a

/-- A list of values. -/
def list {α : Type} (c : Codec α) : Codec (List α) where
  read steps depth bytes :=
    match skipBlanks bytes with
    | b :: rest =>
      if b = bracketOpen then
        nested depth (b :: rest) fun depth =>
          readItems (fun steps => c.read steps depth) steps true
      else .error (mismatch "a sequence" (b :: rest))
    | [] => .error (mismatch "a sequence" [])
  accept
    | .array items => items.mapM c.accept
    | v => .error (.invalidType v.found "a sequence")
  write items := .array (items.map c.write)

/-- Reads any document; the members of its objects are sorted. -/
def readAny : (steps depth : Nat) → Bytes → Parsed Value
  | 0, _, bytes => .error (faultAt bytes .endInValue)
  | steps + 1, depth, bytes =>
    match skipBlanks bytes with
    | [] => .error (faultAt [] .endInValue)
    | b :: rest =>
      if b = letterN then (expectWord afterN rest).map (.null, ·)
      else if b = letterT then (expectWord afterT rest).map (.bool true, ·)
      else if b = letterF then (expectWord afterF rest).map (.bool false, ·)
      else if b = minus then (scanNumber true rest).map fun r => (.number r.1, r.2)
      else if isDigit b then (scanNumber false (b :: rest)).map fun r => (.number r.1, r.2)
      else if b = quote then (scanString rest).map fun r => (.string r.1, r.2)
      else if b = bracketOpen then
        match depth with
        | 0 => .error (faultAtNext (b :: rest) .recursionLimit)
        | depth + 1 =>
          (readItems (fun _ => readAny steps depth) (steps + 1) true rest).map
            fun r => (.array r.1, r.2)
      else if b = braceOpen then
        match depth with
        | 0 => .error (faultAtNext (b :: rest) .recursionLimit)
        | depth + 1 =>
          let member (_ : Nat) (members : List (String × Value)) (name : String) (bytes : Bytes) :
              Parsed (List (String × Value)) :=
            match expectColon bytes with
            | .error f => .error f
            | .ok rest =>
              match readAny steps depth rest with
              | .error f => .error f
              | .ok (v, rest) => .ok (Value.insertMember name v members, rest)
          (readMembers member (steps + 1) true [] rest).map fun r => (.object r.1, r.2)
      else .error (faultAtNext (b :: rest) .expectedValue)

/-- Any document. -/
def any : Codec Value where
  read := readAny
  accept v := .ok v.sorted
  write v := v

/-- Reads a whole text, blanks around the value allowed. -/
def parse {α : Type} (c : Codec α) (text : Bytes) : Except Error α :=
  match c.read (text.length + 1) maxDepth text with
  | .error f => .error (f.located text)
  | .ok (x, rest) =>
    match skipBlanks rest with
    | [] => .ok x
    | b :: rest => .error ((faultAtNext (b :: rest) .trailingCharacters).located text)

/-- Takes a value from a document. -/
def fromValue {α : Type} (c : Codec α) (v : Value) : Except Error α :=
  match c.accept v with
  | .ok x => .ok x
  | .error reason => .error ⟨reason, none⟩

/-- The text of a value. -/
def print {α : Type} (c : Codec α) (x : α) : String := (c.write x).compact

/-- The free-form document of a value: all its members sorted. -/
def toValue {α : Type} (c : Codec α) (x : α) : Value := (c.write x).sorted

end Codec

end SchemaCatalog.Json
