/-
  `Variant` — documents that name one of several values.

  The value is named by a text, or by an object with that name as its only member, whose value is
  `null`.
-/
import SchemaCatalog.Json.Codec

namespace SchemaCatalog.Json.Codec

/-- The value that `name` stands for. -/
def chooseVariant {α : Type} (known : List (String × α)) (name : String) : Except Reason α :=
  match known.lookup name with
  | some x => .ok x
  | none => .error (.unknownVariant name (known.map (·.1)))

/-- A name after its opening quote. -/
def readVariantName {α : Type} (known : List (String × α)) (bytes : Bytes) : Parsed α :=
  match scanString bytes with
  | .error f => .error f
  | .ok (name, rest) =>
    match chooseVariant known name with
    | .error reason => .error (faultAt rest reason)
    | .ok x => .ok (x, rest)

/-- The `null` after the colon that follows a name. -/
def readVariantValue (bytes : Bytes) : Except Fault Bytes :=
  match expectColon bytes with
  | .error f => .error f
  | .ok rest =>
    match skipBlanks rest with
    | [] => .error (mismatch "unit" [])
    | b :: rest =>
      if b = letterN then expectWord afterN rest else .error (mismatch "unit" (b :: rest))

/-- An object that names a value, after its opening brace. An object without members lacks the name, and
a member needs a text for its name. -/
def readVariantObject {α : Type} (known : List (String × α)) (bytes : Bytes) : Parsed α :=
  match skipBlanks bytes with
  | [] => .error (faultAt [] .endInObject)
  | b :: rest =>
    if b = quote then
      match readVariantName known rest with
      | .error f => .error f
      | .ok (x, rest) =>
        match readVariantValue rest with
        | .error f => .error f
        | .ok rest =>
          match skipBlanks rest with
          | [] => .error (faultAt [] .endInObject)
          | c :: after =>
            if c = braceClose then .ok (x, after) else .error (faultAt (c :: after) .expectedValue)
    else if b = braceClose then .error (faultAtNext (b :: rest) .expectedValue)
    else .error (faultAtNext (b :: rest) .keyNotString)

/-- One of the values `known`, each with its name; `nameOf` gives the name back. -/
def variant {α : Type} (known : List (String × α)) (nameOf : α → String) : Codec α where
  read _ depth bytes :=
    match skipBlanks bytes with
    | [] => .error (faultAt [] .endInValue)
    | b :: rest =>
      if b = braceOpen then nested depth (b :: rest) fun _ => readVariantObject known
      else if b = quote then readVariantName known rest
      else .error (faultAtNext (b :: rest) .expectedValue)
  accept
    | .string name => chooseVariant known name
    | .object [(name, v)] =>
      match chooseVariant known name with
      | .error reason => .error reason
      | .ok x => if v.isNull then .ok x else .error (.invalidType v.found "unit")
    | .object _ => .error (.invalidValue .map "map with a single key")
    | v => .error (.invalidType v.found "string or map")
  write x := .string (nameOf x)

end SchemaCatalog.Json.Codec
