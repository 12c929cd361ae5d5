/-
  `Record` — documents with fixed members.

  A record is described by its `Field`s. It is written as an object with the members in the order
  of the fields, those left out that say so. It is read from an object with its members in any order,
  unknown ones passed over, or from an array of the fields' values in their order. `Row fields` holds
  a value for every field, `Slots fields` those that have been met so far.
-/
import SchemaCatalog.Json.Codec

namespace SchemaCatalog.Json

/-- What a field is when it is not there: an error; a value, but in an object only; or a value. -/
inductive Absence (α : Type) where
  | error
  | inObject (value : α)
  | always (value : α)

/-- A field of a record. -/
structure Field where
  {α : Type}
  name : String
  codec : Codec α
  absence : Absence α
  /-- Whether a value is left out when the record is written. -/
  leftOut : α → Bool

namespace Field

/-- A field that has to be there. -/
def required {α : Type} (name : String) (codec : Codec α) : Field :=
  ⟨name, codec, .error, fun _ => false⟩

/-- A field that has the value `value` when it is not there. -/
def withDefault {α : Type} (name : String) (codec : Codec α) (value : α) : Field :=
  ⟨name, codec, .always value, fun _ => false⟩

/-- A field that may be missing or `null`, and is left out when there is no value. -/
def omissible {α : Type} (name : String) (codec : Codec α) : Field :=
  ⟨name, codec.optional, .always none, Option.isNone⟩

/-- A field that may be missing or `null`, and is written as `null` when there is no value. -/
def nullable {α : Type} (name : String) (codec : Codec α) : Field :=
  ⟨name, codec.optional, .always none, fun _ => false⟩

end Field

/-- A value for every field. -/
def Row : List Field → Type
  | [] => Unit
  | f :: fields => f.α × Row fields

/-- The values met so far. -/
def Slots : List Field → Type
  | [] => Unit
  | f :: fields => Option f.α × Slots fields

namespace Slots

/-- No value met yet. -/
def empty : (fields : List Field) → Slots fields
  | [] => ()
  | _ :: fields => (none, empty fields)

/-- Meets the member `name`. A known one is read by `read` and put in its slot, a repeated one is
refused by `repeated`, and `unknown` passes over any other. -/
def meet {ε τ : Type} (read : {α : Type} → Codec α → Except ε (α × τ))
    (repeated : String → ε) (unknown : Except ε τ) (name : String) :
    (fields : List Field) → Slots fields → Except ε (Slots fields × τ)
  | [], _ => unknown.map ((), ·)
  | f :: fields, (slot, slots) =>
    if f.name = name then
      if slot.isSome then .error (repeated name)
      else (read f.codec).map fun r => ((some r.1, slots), r.2)
    else (meet read repeated unknown name fields slots).map fun r => ((slot, r.1), r.2)

/-- The values of all fields, those not met taken from their defaults; the name of the first field
that has neither, otherwise. -/
def complete : (fields : List Field) → Slots fields → Except String (Row fields)
  | [], _ => .ok ()
  | f :: fields, (slot, slots) =>
    match slot, f.absence with
    | some x, _ | none, .always x | none, .inObject x => (complete fields slots).map (x, ·)
    | none, .error => .error f.name

end Slots

namespace Row

/-- The members of a record as they are written. -/
def members : (fields : List Field) → Row fields → List (String × Value)
  | [], _ => []
  | f :: fields, (x, row) =>
    if f.leftOut x then members fields row else (f.name, f.codec.write x) :: members fields row

/-- The defaults of all fields, as the end of an array; the place of the first field without one,
counted from `index`, otherwise. -/
def defaults : (fields : List Field) → (index : Nat) → Except Nat (Row fields)
  | [], _ => .ok ()
  | f :: fields, index =>
    match f.absence with
    | .always x => (defaults fields (index + 1)).map (x, ·)
    | _ => .error index

/-- The end of an array whose items are all read: the closing bracket. -/
def close (bytes : Bytes) : Except Fault Bytes :=
  match skipBlanks bytes with
  | [] => .error (faultAt [] .endInList)
  | b :: rest =>
    if b = bracketClose then .ok rest
    else if b = comma then
      match skipBlanks rest with
      | c :: after =>
        .error (faultAtNext (c :: after)
          (if c = bracketClose then .trailingComma else .trailingCharacters))
      | [] => .error (faultAtNext [] .trailingCharacters)
    else .error (faultAtNext (b :: rest) .trailingCharacters)

/-- The values of the fields as the items of an array up to its closing bracket. `short` is the
fault of an array that ends before the field at an index. -/
def readArray (short : Nat → Reason) (steps depth : Nat) :
    (fields : List Field) → (index : Nat) → Bytes → Parsed (Row fields)
  | [], _, bytes => (close bytes).map ((), ·)
  | f :: fields, index, bytes =>
    let item (bytes : Bytes) : Parsed (Row (f :: fields)) :=
      match f.codec.read steps depth bytes with
      | .error e => .error e
      | .ok (x, rest) =>
        match readArray short steps depth fields (index + 1) rest with
        | .error e => .error e
        | .ok (row, rest) => .ok ((x, row), rest)
    match skipBlanks bytes with
    | [] => .error (faultAt [] .endInList)
    | b :: rest =>
      if b = bracketClose then
        match defaults (f :: fields) index with
        | .ok row => .ok (row, rest)
        | .error index => .error (faultAt rest (short index))
      else if index = 0 then item (b :: rest)
      else if b = comma then
        match skipBlanks rest with
        | [] => .error (faultAt [] .endInValue)
        | c :: after =>
          if c = bracketClose then .error (faultAtNext (c :: after) .trailingComma)
          else item (c :: after)
      else .error (faultAtNext (b :: rest) .expectedCommaOrBracket)

/-- The values of the fields from the items of an array, and the items after them. -/
def acceptArray (short : Nat → Reason) :
    (fields : List Field) → (index : Nat) → List Value → Except Reason (Row fields × List Value)
  | [], _, items => .ok ((), items)
  | f :: fields, index, [] =>
    match defaults (f :: fields) index with
    | .ok row => .ok (row, [])
    | .error index => .error (short index)
  | f :: fields, index, v :: items =>
    match f.codec.accept v with
    | .error e => .error e
    | .ok x =>
      match acceptArray short fields (index + 1) items with
      | .error e => .error e
      | .ok (row, items) => .ok ((x, row), items)

end Row

namespace Codec

/-- A complaint about a whole object that arises behind a name: it stands behind the blanks after
the name, and behind the closing brace if that comes next. -/
def aboutObject (bytes : Bytes) (reason : Reason) : Fault :=
  match skipBlanks bytes with
  | [] => faultAt [] reason
  | b :: rest => if b = braceClose then faultAt rest reason else faultAt (b :: rest) reason

/-- The reason that an array for the record `name` with `count` fields ends before the field at
`index`. -/
def tooShort (name : String) (count index : Nat) : Reason :=
  .invalidLength index ("struct " ++ name ++ " with " ++ toString count ++
    if count = 1 then " element" else " elements")

/-- The record `name` with these fields. -/
def record (name : String) (fields : List Field) : Codec (Row fields) where
  read steps depth bytes :=
    let expected := "struct " ++ name
    let short := tooShort name fields.length
    match skipBlanks bytes with
    | b :: rest =>
      if b = bracketOpen then
        nested depth (b :: rest) fun depth => Row.readArray short steps depth fields 0
      else if b = braceOpen then
        nested depth (b :: rest) fun depth bytes =>
          let member (steps : Nat) (slots : Slots fields) (name : String) (bytes : Bytes) :
              Parsed (Slots fields) :=
            slots.meet
              (fun codec =>
                match expectColon bytes with
                | .error f => .error f
                | .ok rest => codec.read steps depth rest)
              (fun name => aboutObject bytes (.duplicateField name))
              (match expectColon bytes with
                | .error f => .error f
                | .ok rest => skipValue steps rest)
              name
          match readMembers member steps true (Slots.empty fields) bytes with
          | .error f => .error f
          | .ok (slots, rest) =>
            match slots.complete with
            | .ok row => .ok (row, rest)
            | .error missing => .error (faultAt rest (.missingField missing))
      else .error (mismatch expected (b :: rest))
    | [] => .error (mismatch expected [])
  accept v :=
    let expected := "struct " ++ name
    let short := tooShort name fields.length
    match v with
    | .array items =>
      match Row.acceptArray short fields 0 items with
      | .error reason => .error reason
      | .ok (row, []) => .ok row
      | .ok (_, _ :: _) => .error (.invalidLength items.length "fewer elements in array")
    | .object members =>
      let member (slots : Slots fields) (m : String × Value) : Except Reason (Slots fields) :=
        (slots.meet (fun codec => (codec.accept m.2).map (·, ()))
          .duplicateField (.ok ()) m.1).map (·.1)
      match members.foldlM member (Slots.empty fields) with
      | .error reason => .error reason
      | .ok slots =>
        match slots.complete with
        | .ok row => .ok row
        | .error missing => .error (.missingField missing)
    | v => .error (.invalidType v.found expected)
  write row := .object (row.members)

end Codec

end SchemaCatalog.Json
