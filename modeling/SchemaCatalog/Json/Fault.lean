/-
  `Fault` — what is wrong with a document, and where.

  Reading text fails at a place in it, given as the number of bytes that were left there; `located`
  turns that into a line and a column. Reading a document that has been parsed before fails without
  a place. `Reason.message` holds the wording.
-/
import SchemaCatalog.Json.Value
import SchemaCatalog.Text.Quoted

namespace SchemaCatalog.Json

/-- What was found where something else was expected. -/
inductive Found where
  | null
  | bool (value : Bool)
  | number (value : Number)
  | string (value : String)
  | sequence
  | map
deriving DecidableEq, Repr

/-- Why a document cannot be read. -/
inductive Reason where
  | endInValue
  | endInList
  | endInObject
  | endInString
  | expectedValue
  | expectedIdent
  | expectedColon
  | expectedCommaOrBracket
  | expectedCommaOrBrace
  | keyNotString
  | trailingComma
  | trailingCharacters
  | invalidEscape
  | invalidNumber
  | numberOutOfRange
  | invalidCodePoint
  | controlCharacter
  | endOfHexEscape
  | loneSurrogate
  | recursionLimit
  | invalidType (found : Found) (expected : String)
  | invalidValue (found : Found) (expected : String)
  | invalidLength (length : Nat) (expected : String)
  | unknownVariant (name : String) (known : List String)
  | missingField (name : String)
  | duplicateField (name : String)
deriving DecidableEq, Repr

/-- A reason, and how many bytes of the text were left where it arose. -/
structure Fault where
  reason : Reason
  left : Nat
deriving DecidableEq, Repr

/-- A place in a text: the number of its line, and the number of bytes of that line up to it. -/
structure Position where
  line : Nat
  column : Nat
deriving DecidableEq, Repr

/-- The place after the bytes `before`. -/
def Position.after (before : Bytes) : Position :=
  before.foldl (fun p b => if b = 0x0A then ⟨p.line + 1, 0⟩ else ⟨p.line, p.column + 1⟩) ⟨1, 0⟩

/-- Why a document cannot be read, with the place if it was read from text. -/
structure Error where
  reason : Reason
  position : Option Position
deriving DecidableEq, Repr

/-- The fault with its place in `text`. -/
def Fault.located (text : Bytes) (f : Fault) : Error :=
  ⟨f.reason, some (Position.after (text.take (text.length - f.left)))⟩

/-- The document found, as a message names it. -/
def Found.message : Found → String
  | null => "null"
  | bool true => "boolean `true`"
  | bool false => "boolean `false`"
  | number (.integer n) => "integer `" ++ String.ofList (Number.integerChars n) ++ "`"
  | number x => "floating point `" ++ String.ofList x.chars ++ "`"
  | string s => "string " ++ Text.quoted s
  | sequence => "sequence"
  | map => "map"

/-- `name` between grave accents. -/
def accented (name : String) : String := "`" ++ name ++ "`"

/-- The wording of a reason. -/
def Reason.message : Reason → String
  | endInValue => "EOF while parsing a value"
  | endInList => "EOF while parsing a list"
  | endInObject => "EOF while parsing an object"
  | endInString => "EOF while parsing a string"
  | expectedValue => "expected value"
  | expectedIdent => "expected ident"
  | expectedColon => "expected " ++ accented ":"
  | expectedCommaOrBracket => "expected " ++ accented "," ++ " or " ++ accented "]"
  | expectedCommaOrBrace => "expected " ++ accented "," ++ " or " ++ accented "\x7d"
  | keyNotString => "key must be a string"
  | trailingComma => "trailing comma"
  | trailingCharacters => "trailing characters"
  | invalidEscape => "invalid escape"
  | invalidNumber => "invalid number"
  | numberOutOfRange => "number out of range"
  | invalidCodePoint => "invalid unicode code point"
  | controlCharacter => "control character (\\u0000-\\u001F) found while parsing a string"
  | endOfHexEscape => "unexpected end of hex escape"
  | loneSurrogate => "lone leading surrogate in hex escape"
  | recursionLimit => "recursion limit exceeded"
  | invalidType found expected => "invalid type: " ++ found.message ++ ", expected " ++ expected
  | invalidValue found expected => "invalid value: " ++ found.message ++ ", expected " ++ expected
  | invalidLength n expected => "invalid length " ++ toString n ++ ", expected " ++ expected
  | unknownVariant name known =>
    "unknown variant " ++ accented name ++ ", expected one of " ++
      String.intercalate ", " (known.map accented)
  | missingField name => "missing field " ++ accented name
  | duplicateField name => "duplicate field " ++ accented name

/-- The wording of an error, its place at the end. -/
def Error.message (e : Error) : String :=
  match e.position with
  | none => e.reason.message
  | some p => e.reason.message ++ " at line " ++ toString p.line ++ " column " ++ toString p.column

end SchemaCatalog.Json
