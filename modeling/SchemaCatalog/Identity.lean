/-
  `Identity` — the name, vendor and version that identify a schema.

  Schemas are stored under the `key` of their identity, its components joined by `@`. An identity
  with an empty component, or with an `@` in one, has no place there: `check` refuses it, so that a
  key belongs to one identity only. Identities are ordered component by component.
-/
import SchemaCatalog.Json.Record

namespace SchemaCatalog

/-- The identity of a schema. -/
structure Identity where
  name : String
  vendor : String
  version : String
deriving DecidableEq, Repr, Inhabited

namespace Identity

/-- The components of an identity. -/
inductive Part where
  | name
  | vendor
  | version
deriving DecidableEq, Repr

/-- The name of a component. -/
def Part.text : Part → String
  | name => "name"
  | vendor => "vendor"
  | version => "version"

/-- A component of an identity. -/
def component (id : Identity) : Part → String
  | .name => id.name
  | .vendor => id.vendor
  | .version => id.version

/-- The character between the components of a key. -/
def separator : Char := '@'

/-- The characters of a key. -/
def keyChars (id : Identity) : List Char :=
  id.name.toList ++ separator :: (id.vendor.toList ++ separator :: id.version.toList)

/-- The text under which the schema of an identity is stored. -/
def key (id : Identity) : String := String.ofList id.keyChars

/-- Why an identity cannot be stored: a component is empty, or holds the separator. -/
inductive Flaw where
  | empty (part : Part)
  | separator (part : Part) (value : String)
deriving DecidableEq, Repr

/-- The flaw of one component. -/
def checkPart (id : Identity) (part : Part) : Except Flaw Unit :=
  let value := id.component part
  if value.isEmpty then .error (.empty part)
  else if value.toList.contains separator then .error (.separator part value)
  else .ok ()

/-- The first flaw of an identity, components in the order of the key. -/
def check (id : Identity) : Except Flaw Unit := do
  id.checkPart .name
  id.checkPart .vendor
  id.checkPart .version

/-- The wording of a flaw. -/
def Flaw.message : Flaw → String
  | empty part => "schema " ++ part.text ++ " must not be empty"
  | separator part value =>
    "schema " ++ part.text ++ " " ++ Text.quoted value ++ " must not contain '@'"

/-- Component by component, each by the order of its characters. -/
instance : Ord Identity where
  compare a b :=
    ((compare a.name b.name).then (compare a.vendor b.vendor)).then (compare a.version b.version)

/-- An identity is an object of its components. -/
def codec : Json.Codec Identity :=
  (Json.Codec.record "SchemaIdentity"
    [.required "name" .string, .required "vendor" .string, .required "version" .string]).imap
    (fun (name, vendor, version, _) => ⟨name, vendor, version⟩)
    (fun id => (id.name, id.vendor, id.version, ()))

end Identity

end SchemaCatalog
